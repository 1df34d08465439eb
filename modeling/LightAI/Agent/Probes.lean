import LightAI.Agent.OneGateway
import LightAI.Agent.Reachable

/-!
# What the agent's calls look at and signal

A start signals no process id. A stop does so only where it relies on a record, after it has looked at
`/proc` once.
-/

namespace LightAI.Agent

/-! ### What a call looks at and signals -/

/-- A look at `/proc/{pid}/stat` or a signal, and the moment of it. -/
inductive Probe where
  | check (processId : Int) (t : Nat)
  | signal (processId : Int) (t : Nat)
  deriving DecidableEq

def Op.probe (t : Nat) : Op → List Probe
  | .call (.readStat processId) => [.check processId t]
  | .call (.kill processId) => [.signal processId t]
  | _ => []

def probesOf {α : Type} (env : Nat → Moment) (program : Async α) (w : World) : List Probe :=
  program.emits (Op.exec env) (fun op w => op.probe w.now) w

/-- Every signal follows a check, at which its process id is held by the process `owner`. -/
def SignalsOwner (env : Nat → Moment) (owner : Option Child) (probes : List Probe) : Prop :=
  ∀ pre processId t post, probes = pre ++ .signal processId t :: post →
    ∃ earlier checked child, pre = earlier ++ [.check processId checked] ∧ owner = some child ∧
      child.processId = processId ∧ (env checked).runsChild child = true

/-! ### The probes of a program -/

section Probes

variable {α β : Type} {env : Nat → Moment} {w : World}

theorem probesOf_bind (program : Async α) (f : α → Async β) (w : World) :
    probesOf env (program >>= f) w
      = probesOf env program w ++ probesOf env (f (run env program w).1) (run env program w).2 :=
  Program.emits_bind _ _ program f w

/-- The operation neither looks at a process nor signals one. -/
def Op.unprobed : Op → Prop
  | .call (.readStat _) | .call (.kill _) => False
  | _ => True

theorem probe_of_unprobed {op : Op} (h : op.unprobed) (t : Nat) : op.probe t = [] := by
  cases op with
  | call c =>
      cases c with
      | readStat processId => exact h.elim
      | kill processId => exact h.elim
      | _ => rfl
  | _ => rfl

theorem probesOf_unprobed {program : Async α} (h : program.Performs Op.unprobed) (w : World) :
    probesOf env program w = [] :=
  h.emits_eq_nil (fun _ w hop => probe_of_unprobed hop w.now) w

theorem probesOf_unprobed_bind {program : Async α} (h : program.Performs Op.unprobed)
    (f : α → Async β) (w : World) :
    probesOf env (program >>= f) w
      = probesOf env (f (run env program w).1) (run env program w).2 := by
  rw [probesOf_bind, probesOf_unprobed h, List.nil_append]

theorem probesOf_bind_unprobed (program : Async α) {f : α → Async β}
    (h : ∀ value, (f value).Performs Op.unprobed) (w : World) :
    probesOf env (program >>= f) w = probesOf env program w := by
  rw [probesOf_bind, probesOf_unprobed (h _), List.append_nil]

/-- The operation signals no process. -/
def Op.unsignalling : Op → Prop
  | .call (.kill _) => False
  | _ => True

def NoSignal (probes : List Probe) : Prop := ∀ processId t, Probe.signal processId t ∉ probes

theorem noSignal_of_unsignalling {op : Op} (h : op.unsignalling) (t : Nat) : NoSignal (op.probe t) := by
  intro processId t' hmem
  cases op with
  | call c =>
      cases c with
      | readStat other => cases List.mem_singleton.mp hmem
      | kill other => exact h
      | _ => cases hmem
  | _ => cases hmem

theorem noSignal_of_performs {program : Async α} (h : program.Performs Op.unsignalling) (w : World) :
    NoSignal (probesOf env program w) := by
  induction program generalizing w with
  | ret value => exact fun _ _ => List.not_mem_nil
  | call op next ih =>
      intro processId t hmem
      rcases List.mem_append.mp hmem with hhere | hlater
      · exact noSignal_of_unsignalling h.1 w.now processId t hhere
      · exact ih _ (h.2 _) _ processId t hlater

theorem SignalsOwner.of_noSignal {owner : Option Child} {probes : List Probe} (h : NoSignal probes) :
    SignalsOwner env owner probes := by
  intro pre processId t post hsplit
  refine absurd ?_ (h processId t)
  rw [hsplit]
  exact List.mem_append_right _ (List.mem_cons_self ..)

/-- What comes after the signals does not matter. -/
theorem SignalsOwner.append {owner : Option Child} {probes later : List Probe}
    (h : SignalsOwner env owner probes) (hlater : NoSignal later) :
    SignalsOwner env owner (probes ++ later) := by
  intro pre processId t post hsplit
  rcases List.append_eq_append_iff.mp hsplit with ⟨rest, -, hrest⟩ | ⟨rest, hprobes, hrest⟩
  · refine absurd ?_ (hlater processId t)
    rw [hrest]
    exact List.mem_append_right _ (List.mem_cons_self ..)
  · cases rest with
    | nil =>
        refine absurd ?_ (hlater processId t)
        rw [← (List.nil_append later), ← hrest]
        exact List.mem_cons_self ..
    | cons head rest =>
        obtain ⟨rfl, -⟩ := List.cons.inj hrest
        exact h pre processId t rest hprobes

/-- A check that shows the owner, and a signal. -/
theorem SignalsOwner.of_pair {child : Child} {processId : Int} {checked t : Nat}
    (hpid : child.processId = processId) (hruns : (env checked).runsChild child = true) :
    SignalsOwner env (some child) [.check processId checked, .signal processId t] := by
  intro pre other t' post hsplit
  match pre with
  | [] => cases hsplit
  | [first] =>
      obtain ⟨hfirst, hrest⟩ := List.cons.inj hsplit
      obtain ⟨hsignal, -⟩ := List.cons.inj hrest
      obtain ⟨rfl, -⟩ := Probe.signal.inj hsignal
      exact ⟨[], checked, child, congrArg (fun probe => [probe]) hfirst.symm, rfl, hpid, hruns⟩
  | first :: second :: pre =>
      have hlength := congrArg List.length hsplit
      simp at hlength

end Probes

/-! ### Programs that signal nothing -/

section Unsignalling

variable {deps : External} {env : Nat → Moment}

theorem unsignalling_of_follows {op : Op} (h : op.followsSpawn) : op.unsignalling := by
  cases op with
  | call c =>
      cases c with
      | kill processId => exact h
      | _ => trivial
  | _ => trivial

theorem unsignalling_of_startsChild {op : Op} (h : op.startsChild) : op.unsignalling := by
  cases op with
  | call c =>
      cases c with
      | kill processId => exact h
      | _ => trivial
  | _ => trivial

theorem unsignalling_startDockerInstance (instanceId : String) (payload : Json) (store : Bool) :
    (startDockerInstance deps instanceId payload store).Performs Op.unsignalling := by
  have hcontainer : (startDockerContainer deps (resolveDockerPayload deps payload)).Performs
      Op.unsignalling := by
    unfold startDockerContainer
    split
    · trivial
    · exact (performs_await trivial).bind fun _ => trivial
  refine hcontainer.bind fun result => ?_
  split
  · exact (follows_writeContainerRecord ..).mono fun _ => unsignalling_of_follows
  · trivial

theorem unsignalling_handleStart (payload : Json) :
    (handleStart deps payload).Performs Op.unsignalling := by
  unfold handleStart startModelInstanceWithStore
  dsimp only
  split
  · exact unsignalling_startDockerInstance ..
  · split
    · exact (startsChild_startOllamaInstance deps payload).mono fun _ hop =>
        unsignalling_of_startsChild hop.1
    · exact (startsChild_startLocalInstance ..).mono fun _ => unsignalling_of_startsChild

theorem unsignalling_checkGatewayRecord (record : GatewayProcessRecord) :
    (checkGatewayRecord record).Performs Op.unsignalling :=
  ((follows_processStartTime record.processId).mono fun _ => unsignalling_of_follows).bind
    fun _ => trivial

theorem unsignalling_loadRecord : loadRecord.Performs Op.unsignalling :=
  performs_perform trivial

theorem unsignalling_launchGateway (spec : GatewayProcessSpec) :
    (launchGateway spec).Performs Op.unsignalling := by
  refine (performs_await trivial).bind fun prepared => ?_
  cases prepared with
  | error message => trivial
  | ok _ =>
      refine (performs_await trivial).bind fun spawned => ?_
      cases spawned with
      | error error => trivial
      | ok child =>
          refine ((follows_processStartTime child.processId).mono fun _ =>
            unsignalling_of_follows).bind fun startTime => ?_
          refine (performs_await trivial).bind fun startedAt => ?_
          refine (performs_perform trivial).bind fun saved => ?_
          cases saved with
          | error error => trivial
          | ok _ => trivial

theorem unsignalling_startGateway (statePath : String) (spec : GatewayProcessSpec) :
    (startGateway deps statePath spec).Performs Op.unsignalling := by
  unfold startGateway
  split
  · trivial
  · refine unsignalling_loadRecord.bind fun loaded => ?_
    match loaded with
    | .error error => exact unsignalling_launchGateway spec
    | .ok none => exact unsignalling_launchGateway spec
    | .ok (some record) =>
        refine (unsignalling_checkGatewayRecord record).bind fun check => ?_
        split
        · trivial
        · exact unsignalling_launchGateway spec

theorem unsignalling_checkGateway : checkGateway.Performs Op.unsignalling := by
  refine unsignalling_loadRecord.bind fun loaded => ?_
  match loaded with
  | .error error => trivial
  | .ok none => trivial
  | .ok (some record) =>
      refine (unsignalling_checkGatewayRecord record).bind fun check => ?_
      split
      · refine (performs_await trivial).bind fun health => ?_
        cases health with
        | error error => trivial
        | ok status => trivial
      · trivial

end Unsignalling

/-! ### The signals of a stop -/

section Stops

variable (deps : External) {env : Nat → Moment}

theorem unprobed_modify (f : List ManagedProcessRecord → List ManagedProcessRecord) :
    (modify f).Performs Op.unprobed := by
  refine (performs_perform trivial).bind fun records => ?_
  cases records with
  | error error => trivial
  | ok records => exact performs_perform trivial

theorem unprobed_find (instanceId : String) : (find instanceId).Performs Op.unprobed :=
  (performs_perform trivial).bind fun _ => trivial

theorem unprobed_stopDockerContainer (record : ManagedProcessRecord) :
    (stopDockerContainer record).Performs Op.unprobed := by
  unfold stopDockerContainer
  split
  · trivial
  · exact (performs_await trivial).bind fun _ => trivial

theorem unprobed_stopDockerInstance (instanceId : String) (record : ManagedProcessRecord) :
    (stopDockerInstance instanceId record).Performs Op.unprobed := by
  refine (unprobed_stopDockerContainer record).bind fun stopped => ?_
  refine (unprobed_modify _).bind fun _ => ?_
  cases stopped with
  | ok _ => trivial
  | error message => trivial

theorem unprobed_stopChild (instanceId : String) (handle : ProcessHandle) :
    (stopChild instanceId true handle).Performs Op.unprobed := by
  refine (performs_await trivial).bind fun killed => ?_
  cases killed with
  | error error => trivial
  | ok _ =>
      refine (unprobed_modify _).bind fun removed => ?_
      cases removed with
      | error error => trivial
      | ok _ => exact (performs_await trivial).bind fun _ => trivial

theorem unprobed_findDocker (instanceId : String) : (findDocker instanceId true).Performs Op.unprobed := by
  refine (unprobed_find instanceId).bind fun found => ?_
  cases found with
  | error error => trivial
  | ok record => trivial

/-- The probes of the kill of a record at a moment. -/
def recordProbes (env : Nat → Moment) (record : ManagedProcessRecord) (t : Nat) : List Probe :=
  if record.isDocker then []
  else if (processCheck record ((env t).statAt record.processId)).isRunning then
    [.check record.processId t, .signal record.processId (t + 1)]
  else [.check record.processId t]

theorem probesOf_killManaged (record : ManagedProcessRecord) (w : World) :
    probesOf env (killManaged deps record) w = recordProbes env record w.now := by
  unfold killManaged recordProbes
  by_cases hdocker : record.isDocker = true
  · rw [if_pos hdocker, if_pos hdocker]
    exact probesOf_unprobed (unprobed_stopDockerContainer record) w
  · have hcheck : checkRecord deps record = (do
        let currentStartTime ← processStartTime record.processId
        pure (processCheck record currentStartTime)) := if_neg hdocker
    have hprobes : probesOf env (checkRecord deps record) w = [.check record.processId w.now] := by
      rw [hcheck]
      rfl
    have hrun : run env (checkRecord deps record) w
        = (processCheck record ((env w.now).statAt record.processId), w.tick) := by
      rw [hcheck]
      rfl
    rw [if_neg hdocker, if_neg hdocker, probesOf_bind, hprobes, hrun]
    dsimp only
    split
    · rfl
    · rfl

theorem probesOf_stopRecorded (instanceId : String) (w : World) :
    probesOf env (stopRecorded deps instanceId true) w
      = match foundAt (env w.now) w.store instanceId with
        | none => []
        | some record => recordProbes env record (w.now + 1) := by
  obtain ⟨outcome, hrun, hfound⟩ := @run_find env w instanceId
  rw [stopRecorded, if_pos rfl, probesOf_unprobed_bind (unprobed_find instanceId), hrun]
  cases hcase : foundAt (env w.now) w.store instanceId with
  | none =>
      match outcome with
      | .error error => rfl
      | .ok none => rfl
      | .ok (some record) =>
          have hsome := (hfound record).mp rfl
          rw [hcase] at hsome
          cases hsome
  | some record =>
      rw [(hfound record).mpr hcase]
      dsimp only
      rw [probesOf_bind_unprobed]
      · exact probesOf_killManaged deps record w.tick
      · intro killed
        refine (unprobed_modify _).bind fun removed => ?_
        cases killed with
        | error message => trivial
        | ok _ =>
            cases removed with
            | error error => trivial
            | ok _ => trivial

/-- Only the last of the routes of a stop signals a process id. -/
theorem probesOf_stop (payload : Json) (w : World) :
    probesOf env (stopModelInstanceWithStore deps payload true) w
      = match stopRoute env w (payloadText payload "instance_id") true with
        | .recorded record => recordProbes env record (w.now + 3)
        | _ => [] := by
  unfold stopModelInstanceWithStore stopRoute
  dsimp only
  generalize payloadText payload "instance_id" = instanceId
  rw [probesOf_unprobed_bind (unprobed_findDocker instanceId), run_findDocker]
  cases dockerAt (env w.now) w.store instanceId true with
  | some record => exact probesOf_unprobed (unprobed_stopDockerInstance instanceId record) _
  | none =>
      have hremove : (perform (.removeHandle instanceId)).Performs Op.unprobed :=
        performs_perform trivial
      dsimp only
      rw [probesOf_unprobed_bind hremove, run_perform]
      have hremoved : (Op.removeHandle instanceId).exec env
          { w with now := w.now + if true = true then 1 else 0 }
            = (w.registry instanceId, w.withoutHandle instanceId (w.now + 2)) := rfl
      rw [hremoved]
      cases w.registry instanceId with
      | some handle => exact probesOf_unprobed (unprobed_stopChild instanceId handle) _
      | none =>
          have hprobes := @probesOf_stopRecorded deps env instanceId
            (w.withoutHandle instanceId (w.now + 2))
          have hrecord : recordAt (env (w.now + 2)) w.store instanceId true
              = foundAt (env (w.now + 2)) w.store instanceId := rfl
          rw [hrecord]
          dsimp only
          rw [hprobes]
          change (match foundAt (env (w.now + 2)) w.store instanceId with
            | none => []
            | some record => recordProbes env record (w.now + 2 + 1)) = _
          cases foundAt (env (w.now + 2)) w.store instanceId with
          | none => rfl
          | some record => rfl

/-- The probes of a stop of the gateway. -/
theorem probesOf_stopGateway (w : World) :
    probesOf env stopGateway w = match (env w.now).gatewayAt w.gateway with
      | .ok (some record) =>
          if (gatewayCheck record ((env (w.now + 1)).statAt record.processId)).isRunning then
            [.check record.processId (w.now + 1), .signal record.processId (w.now + 2)]
          else [.check record.processId (w.now + 1)]
      | _ => [] := by
  have hload : loadRecord.Performs Op.unprobed := performs_perform trivial
  rw [stopGateway, probesOf_unprobed_bind hload, run_loadRecord]
  dsimp only
  cases (env w.now).gatewayAt w.gateway with
  | error error => rfl
  | ok held =>
  cases held with
  | none => rfl
  | some record =>
      have hremoval : Program.Performs Op.unprobed (do
          let _ ← perform .removeGateway
          pure (record.result "stopped" "Gateway stopped")) :=
        (performs_perform trivial).bind fun _ => trivial
      have hprobes : probesOf env (checkGatewayRecord record) w.tick
          = [.check record.processId (w.now + 1)] := rfl
      have hmoment : (env w.tick.now).statAt record.processId
          = (env (w.now + 1)).statAt record.processId := rfl
      dsimp only
      rw [stopRecordedGateway, probesOf_bind, hprobes, run_checkGatewayRecord, hmoment]
      dsimp only
      split
      · rw [probesOf_bind_unprobed]
        · rfl
        · intro killed
          cases killed with
          | error message => trivial
          | ok _ => exact hremoval
      · have hnone := @probesOf_unprobed _ env _ hremoval w.tick.tick
        exact congrArg (Probe.check record.processId (w.now + 1) :: ·) hnone

end Stops

end LightAI.Agent
