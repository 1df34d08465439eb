import LightAI.Agent.DockerConfig

/-!
# The readiness probe

After a start the agent asks the endpoint until it answers well, up to a number of attempts. Each attempt goes
through all paths and ends with a pause. A request ends with an answer or at its timeout, so that the time of
the whole probe is bounded, and an endpoint that never answers takes all of it. Times are in milliseconds.
-/

namespace LightAI.Agent

/-! ### The configuration -/

structure ProbeConfig where
  paths : Option (List String) := none
  maxAttempts : Nat := 5
  intervalMs : Nat := 5000
  timeoutMs : Nat := 400

/-- The parameters of a task, given as a value or as its text. -/
def probeParams (deps : External) (payload : Json) : Json :=
  let params := (payload.get? "params_json").getD .null
  match params.asStr with
  | some value => (deps.jsonFromStr value).getD .null
  | none => params

/-- A number under a key, kept within bounds. -/
def clamped (params : Json) (key : String) (least most default_ : Nat) : Nat :=
  ((params.getU64 key).map fun value => max least (min value most)).getD default_

def askedAttempts (params : Json) : Nat := clamped params "probe_max_attempts" 1 60 5

def askedInterval (params : Json) : Nat := clamped params "probe_interval_ms" 100 60000 5000

def askedTimeout (params : Json) : Nat := clamped params "probe_timeout_ms" 50 60000 400

def ProbeConfig.fromPayload (deps : External) (payload : Json) : ProbeConfig :=
  let parsed := probeParams deps payload
  { paths := ((parsed.get? "probe_paths").bind Json.asArray).map fun items =>
      (items.filterMap Json.asStr).filter fun path => !Text.isBlank path
    maxAttempts := askedAttempts parsed
    intervalMs := askedInterval parsed
    timeoutMs := askedTimeout parsed }

def probePaths (backend : String) : List String :=
  if backend = "llama_cpp" ∨ backend = "vllm" ∨ backend = "ollama" then ["/v1/models", "/health", "/"]
  else ["/health", "/v1/models", "/"]

def ProbeConfig.effectivePaths (probe : ProbeConfig) (backend : String) : List String :=
  match probe.paths with
  | some (path :: paths) => path :: paths
  | _ => probePaths backend

theorem le_clamped {least most default_ : Nat} (params : Json) (key : String) (hdefault : least ≤ default_) :
    least ≤ clamped params key least most default_ := by
  unfold clamped
  cases params.getU64 key with
  | none => exact hdefault
  | some value => exact Nat.le_max_left _ _

/-! ### The probe -/

/-- What becomes of a request without a timeout: how long it takes, and its status code if there is an
answer. -/
structure Reply where
  durationMs : Nat
  status : Option Nat

/-- Whether an HTTP client can be built, and what becomes of each request, by its number and its URL. -/
structure Network where
  client : Bool := true
  reply : Nat → String → Reply

/-- Success or redirection. -/
def Reply.good (reply : Reply) : Bool := reply.status.any fun status => 200 ≤ status ∧ status < 400

/-- How far a probe has come. -/
structure Progress where
  ready : Bool := false
  sent : Nat := 0
  elapsedMs : Nat := 0

/-- `client.get(&url).send()`, which ends at the timeout at the latest. -/
def Network.send (network : Network) (timeoutMs : Nat) (url : String) (progress : Progress) : Progress :=
  let reply := network.reply progress.sent url
  { ready := reply.durationMs < timeoutMs && reply.good
    sent := progress.sent + 1
    elapsedMs := progress.elapsedMs + min reply.durationMs timeoutMs }

/-- One attempt, which ends early with the first good answer. -/
def attempt (network : Network) (probe : ProbeConfig) (root : String) : List String → Progress → Progress
  | [], progress => progress
  | path :: paths, progress =>
      let sent := network.send probe.timeoutMs (root ++ path) progress
      if sent.ready then sent else attempt network probe root paths sent

def pause (ms : Nat) (progress : Progress) : Progress := { progress with elapsedMs := progress.elapsedMs + ms }

def attempts (network : Network) (probe : ProbeConfig) (root : String) (paths : List String) :
    Nat → Progress → Progress
  | 0, progress => progress
  | count + 1, progress =>
      let tried := attempt network probe root paths progress
      if tried.ready then tried
      else attempts network probe root paths count (pause probe.intervalMs tried)

/-- `value.trim_end_matches('/')`. -/
def trimEndSlashes (value : String) : String := String.ofList (value.toList.rdropWhile (· = '/'))

/-- The probe of some paths. -/
def probeEndpoint (network : Network) (probe : ProbeConfig) (baseUrl : String) (paths : List String) :
    Progress :=
  if network.client then attempts network probe (trimEndSlashes baseUrl) paths probe.maxAttempts {}
  else {}

def endpointReady (network : Network) (backend baseUrl : String) (probe : ProbeConfig) : Progress :=
  probeEndpoint network probe baseUrl (probe.effectivePaths backend)

/-- The time of a probe that is never answered. -/
def ProbeConfig.worstCaseMs (probe : ProbeConfig) (paths : Nat) : Nat :=
  probe.maxAttempts * (paths * probe.timeoutMs + probe.intervalMs)

section

variable {network : Network} {probe : ProbeConfig} {root : String}

theorem elapsedMs_attempt_le (paths : List String) (progress : Progress) :
    (attempt network probe root paths progress).elapsedMs
      ≤ progress.elapsedMs + paths.length * probe.timeoutMs := by
  induction paths generalizing progress with
  | nil => simp [attempt]
  | cons path paths ih =>
      have hsent : (network.send probe.timeoutMs (root ++ path) progress).elapsedMs
          ≤ progress.elapsedMs + probe.timeoutMs :=
        Nat.add_le_add_left (Nat.min_le_right _ _) _
      have hrest := ih (network.send probe.timeoutMs (root ++ path) progress)
      have hlength : (path :: paths).length * probe.timeoutMs
          = paths.length * probe.timeoutMs + probe.timeoutMs := by
        rw [List.length_cons, Nat.add_mul, Nat.one_mul]
      unfold attempt
      dsimp only
      split
      · omega
      · omega

theorem elapsedMs_attempts_le (paths : List String) (count : Nat) (progress : Progress) :
    (attempts network probe root paths count progress).elapsedMs
      ≤ progress.elapsedMs + count * (paths.length * probe.timeoutMs + probe.intervalMs) := by
  induction count generalizing progress with
  | zero => simp [attempts]
  | succ count ih =>
      have htried : (attempt network probe root paths progress).elapsedMs
          ≤ progress.elapsedMs + paths.length * probe.timeoutMs :=
        elapsedMs_attempt_le paths progress
      have hrest := ih (pause probe.intervalMs (attempt network probe root paths progress))
      have hpaused : (pause probe.intervalMs (attempt network probe root paths progress)).elapsedMs
          = (attempt network probe root paths progress).elapsedMs + probe.intervalMs := rfl
      have hcount : (count + 1) * (paths.length * probe.timeoutMs + probe.intervalMs)
          = count * (paths.length * probe.timeoutMs + probe.intervalMs)
            + (paths.length * probe.timeoutMs + probe.intervalMs) := by
        rw [Nat.add_mul, Nat.one_mul]
      unfold attempts
      dsimp only
      split
      · omega
      · omega

end

/-- No probe takes longer than the worst case. -/
theorem elapsedMs_probeEndpoint_le (network : Network) (probe : ProbeConfig) (baseUrl : String)
    (paths : List String) :
    (probeEndpoint network probe baseUrl paths).elapsedMs ≤ probe.worstCaseMs paths.length := by
  unfold probeEndpoint
  split
  · have hle : (attempts network probe (trimEndSlashes baseUrl) paths probe.maxAttempts {}).elapsedMs
        ≤ 0 + probe.worstCaseMs paths.length :=
      elapsedMs_attempts_le paths probe.maxAttempts {}
    omega
  · exact Nat.zero_le _

/-- A network in which no request is answered in time. -/
def silent (probe : ProbeConfig) : Network where
  reply _ _ := { durationMs := probe.timeoutMs, status := none }

theorem attempt_silent (probe : ProbeConfig) (root : String) (paths : List String) {progress : Progress}
    (hready : progress.ready = false) :
    (attempt (silent probe) probe root paths progress).ready = false ∧
      (attempt (silent probe) probe root paths progress).elapsedMs
        = progress.elapsedMs + paths.length * probe.timeoutMs := by
  induction paths generalizing progress with
  | nil => exact ⟨hready, by simp [attempt]⟩
  | cons path paths ih =>
      have hsent : ((silent probe).send probe.timeoutMs (root ++ path) progress).ready = false := by
        simp [Network.send, silent]
      have helapsed : ((silent probe).send probe.timeoutMs (root ++ path) progress).elapsedMs
          = progress.elapsedMs + probe.timeoutMs := by
        simp [Network.send, silent]
      obtain ⟨hrest, hrestElapsed⟩ := ih hsent
      have hattempt : attempt (silent probe) probe root (path :: paths) progress
          = attempt (silent probe) probe root paths
              ((silent probe).send probe.timeoutMs (root ++ path) progress) := by
        rw [attempt, hsent]
        rfl
      rw [hattempt]
      refine ⟨hrest, ?_⟩
      rw [hrestElapsed, helapsed, List.length_cons]
      calc
        progress.elapsedMs + probe.timeoutMs + paths.length * probe.timeoutMs
            = progress.elapsedMs + (paths.length * probe.timeoutMs + 1 * probe.timeoutMs) := by omega
        _ = progress.elapsedMs + (paths.length + 1) * probe.timeoutMs := by rw [Nat.add_mul]

theorem elapsedMs_attempts_silent (probe : ProbeConfig) (root : String) (paths : List String) (count : Nat)
    (progress : Progress) (hready : progress.ready = false) :
    (attempts (silent probe) probe root paths count progress).elapsedMs
      = progress.elapsedMs + count * (paths.length * probe.timeoutMs + probe.intervalMs) := by
  induction count generalizing progress with
  | zero => simp [attempts]
  | succ count ih =>
      obtain ⟨htried, helapsed⟩ := attempt_silent probe root paths hready
      have hpaused : (pause probe.intervalMs (attempt (silent probe) probe root paths progress)).ready
          = false := htried
      have hrest := ih _ hpaused
      rw [attempts, htried, if_neg Bool.false_ne_true, hrest]
      calc
        (attempt (silent probe) probe root paths progress).elapsedMs + probe.intervalMs
              + count * (paths.length * probe.timeoutMs + probe.intervalMs)
            = progress.elapsedMs + (count * (paths.length * probe.timeoutMs + probe.intervalMs)
                + 1 * (paths.length * probe.timeoutMs + probe.intervalMs)) := by omega
        _ = progress.elapsedMs + (count + 1) * (paths.length * probe.timeoutMs + probe.intervalMs) := by
            rw [Nat.add_mul count]

/-- The worst case is reached. -/
theorem elapsedMs_probeEndpoint_silent (probe : ProbeConfig) (baseUrl : String) (paths : List String) :
    (probeEndpoint (silent probe) probe baseUrl paths).elapsedMs = probe.worstCaseMs paths.length := by
  have hclient : (silent probe).client = true := rfl
  unfold probeEndpoint
  rw [if_pos hclient, elapsedMs_attempts_silent probe _ paths probe.maxAttempts {} rfl]
  exact Nat.zero_add _

end LightAI.Agent
