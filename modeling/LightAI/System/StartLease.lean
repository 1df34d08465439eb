import LightAI.Agent.EndpointReady
import LightAI.Server.Rows

/-!
# The lease of a start

The server gives a task a lease when it hands it out, and takes it for timed out after that. The probe of a
start has to end before. Whether it does depends on the number of paths that it asks.
-/

namespace LightAI.Agent

open Server (AgentTask agentTaskLeaseSecs)

/-- The wall clock that the server reads at a moment, which is given in milliseconds. -/
def secsAt (ms : Nat) : Int := (ms / 1000 : Nat)

/-- The worst case is no longer than the lease. -/
def FitsLease (probe : ProbeConfig) (paths : List String) : Prop :=
  (probe.worstCaseMs paths.length : Int) ≤ agentTaskLeaseSecs * 1000

/-- Whatever the network does, and whenever the task was handed out, no sweep of the server finds it expired
while the probe goes on. -/
def NeverExpires (probe : ProbeConfig) (paths : List String) : Prop :=
  ∀ (network : Network) (baseUrl : String) (task : AgentTask) (claimedAt elapsed : Nat),
    elapsed ≤ (probeEndpoint network probe baseUrl paths).elapsedMs →
    (task.claim (secsAt claimedAt) (secsAt claimedAt + agentTaskLeaseSecs)).expired
      (secsAt (claimedAt + elapsed)) = false

/-- How many paths a probe with these parameters has time for, if for any at all. -/
def FewPaths (params : Json) (paths : Nat) : Prop :=
  askedInterval params ≤ 30000 / askedAttempts params ∧
    paths ≤ (30000 / askedAttempts params - askedInterval params) / askedTimeout params

theorem worstCaseMs_le_iff {attempts paths timeout interval limit : Nat} (hattempts : 0 < attempts)
    (htimeout : 0 < timeout) :
    attempts * (paths * timeout + interval) ≤ limit ↔
      interval ≤ limit / attempts ∧ paths ≤ (limit / attempts - interval) / timeout := by
  rw [Nat.mul_comm, ← Nat.le_div_iff_mul_le hattempts, Nat.le_div_iff_mul_le htimeout]
  omega

theorem expired_claim_iff (task : AgentTask) (claimedAt elapsed : Nat) :
    (task.claim (secsAt claimedAt) (secsAt claimedAt + agentTaskLeaseSecs)).expired
        (secsAt (claimedAt + elapsed)) = true ↔
      claimedAt / 1000 + 30 < (claimedAt + elapsed) / 1000 := by
  have hsecs : secsAt claimedAt + agentTaskLeaseSecs < secsAt (claimedAt + elapsed) ↔
      claimedAt / 1000 + 30 < (claimedAt + elapsed) / 1000 := by
    have hlease : agentTaskLeaseSecs = 30 := rfl
    unfold secsAt
    omega
  rw [← hsecs]
  simp [AgentTask.expired, AgentTask.claim]

/-- A start that waits for the agent. -/
def queuedStart : AgentTask where
  id := "t"
  nodeId := "n"
  kind := .startModelInstance
  status := .queued
  payloadJson := .obj []
  createdAt := 0
  updatedAt := 0

/-- The bound is what keeps the task from expiring: at the end of a second a silent endpoint needs no more
than one millisecond beyond it. -/
theorem neverExpires_iff_fitsLease (probe : ProbeConfig) (paths : List String) :
    NeverExpires probe paths ↔ FitsLease probe paths := by
  have hlease : agentTaskLeaseSecs = 30 := rfl
  unfold FitsLease
  constructor
  · intro hnever
    by_contra hlong
    have helapsed : 30001 ≤ (probeEndpoint (silent probe) probe "" paths).elapsedMs := by
      rw [elapsedMs_probeEndpoint_silent]
      omega
    have hfalse := hnever (silent probe) "" queuedStart 999 30001 helapsed
    have htrue := (expired_claim_iff queuedStart 999 30001).mpr (by decide)
    rw [htrue] at hfalse
    exact Bool.noConfusion hfalse
  · intro hworst network baseUrl task claimedAt elapsed helapsed
    have hle := elapsedMs_probeEndpoint_le network probe baseUrl paths
    rw [Bool.eq_false_iff, ne_eq, expired_claim_iff]
    omega

/-- Exactly if there are few enough paths, the worst case fits the lease, and no start is taken for timed out
while it is probed. -/
theorem start_fits_lease_iff (deps : External) (payload : Json) (paths : List String) :
    (FitsLease (ProbeConfig.fromPayload deps payload) paths ∧
        NeverExpires (ProbeConfig.fromPayload deps payload) paths) ↔
      FewPaths (probeParams deps payload) paths.length := by
  have hattempts : 0 < askedAttempts (probeParams deps payload) :=
    le_clamped (probeParams deps payload) "probe_max_attempts" (by decide)
  have htimeout : 0 < askedTimeout (probeParams deps payload) :=
    Nat.lt_of_lt_of_le (by decide) (le_clamped (probeParams deps payload) "probe_timeout_ms" (by decide))
  have hworst : (ProbeConfig.fromPayload deps payload).worstCaseMs paths.length ≤ 30000 ↔
      FewPaths (probeParams deps payload) paths.length := worstCaseMs_le_iff hattempts htimeout
  have hlease : agentTaskLeaseSecs = 30 := rfl
  rw [neverExpires_iff_fitsLease, and_self, ← hworst]
  unfold FitsLease
  omega

/-- Without any parameter the three default paths are too many: the probe may take 31 seconds. -/
theorem default_probe_outlasts_lease :
    ¬ ∀ (deps : External) (payload : Json) (paths : List String),
      FitsLease (ProbeConfig.fromPayload deps payload) paths ∧
        NeverExpires (ProbeConfig.fromPayload deps payload) paths := by
  intro hall
  have hfits := (hall noExternal (.obj []) (probePaths "vllm")).1
  have hworst : (ProbeConfig.fromPayload noExternal (.obj [])).worstCaseMs (probePaths "vllm").length
      = 31000 := by
    decide
  unfold FitsLease at hfits
  rw [hworst] at hfits
  exact absurd hfits (by decide)

end LightAI.Agent
