import LightAI.Agent.Heartbeat

/-!
# Collectors that are taken out of the registry

A cycle that cannot fetch the registry goes by the copy that the agent keeps. A registry that was fetched
becomes that copy only if it is not empty and the cycle goes on to its end.
-/

namespace LightAI.Heartbeats

open Agent (RegistryEntry RuntimeConfig)
open Collectors

/-- The registry that the last successful fetch of the run has brought. -/
def fetchedLast (sha256 : Bytes → String) (s : Loop) (e : Event)
    (last : Option (List RegistryEntry)) : Option (List RegistryEntry) :=
  match e, s.snapshot with
  | .cycle cycle, some snapshot => (runOnce sha256 snapshot cycle).fetched.or last
  | _, _ => last

def fetchStep (sha256 : Bytes → String) :
    Loop × Option (List RegistryEntry) → Event → Loop × Option (List RegistryEntry) :=
  Trace.withHistory (step sha256) (fetchedLast sha256)

/-- What the event makes the agent run. -/
def executedBy (sha256 : Bytes → String) (s : Loop) : Event → List Execution
  | .cycle cycle =>
      match s.snapshot with
      | none => []
      | some snapshot => (runOnce sha256 snapshot cycle).collected.executed
  | _ => []

/-- Whatever runs is enabled in the registry of the last successful fetch, if there was one. -/
def FailClosed (sha256 : Bytes → String) (s : Loop × Option (List RegistryEntry)) (e : Event) : Prop :=
  ∀ registry, fetchedLast sha256 s.1 e s.2 = some registry →
    ∀ record ∈ executedBy sha256 s.1 e, Registered sha256 registry record

/-- A cycle that does not get the registry has a copy that enables nothing beyond what the last successful
fetch has brought. -/
def CopyCurrent (sha256 : Bytes → String) (s : Loop × Option (List RegistryEntry)) (e : Event) : Prop :=
  ∀ cycle snapshot registry, e = .cycle cycle → s.1.snapshot = some snapshot → s.2 = some registry →
    (runOnce sha256 snapshot cycle).fetched = none →
      ∀ entry ∈ snapshot.collectorRegistry, entry.enabled = true → entry ∈ registry

/-! ### A current copy is enough -/

theorem registered_mono {sha256 : Bytes → String} {registry registry' : List RegistryEntry}
    {record : Execution} (h : Registered sha256 registry record)
    (hsub : ∀ entry ∈ registry, entry.enabled = true → entry ∈ registry') :
    Registered sha256 registry' record := by
  obtain ⟨entry, hentry, henabled, hmatches⟩ := h
  exact ⟨entry, hsub entry hentry henabled, henabled, hmatches⟩

/-- A fetch that fails leaves the copy to go by. -/
theorem usedRegistry_runOnce {sha256 : Bytes → String} {snapshot : RuntimeConfig} {cycle : Cycle}
    {record : Execution} (hrecord : record ∈ (runOnce sha256 snapshot cycle).collected.executed) :
    (runOnce sha256 snapshot cycle).usedRegistry
      = (runOnce sha256 snapshot cycle).fetched.getD snapshot.collectorRegistry := by
  unfold runOnce at hrecord ⊢
  cases hidentity : identify cycle with
  | none =>
      simp only [hidentity] at hrecord
      cases hrecord
  | some identity => rfl

theorem failClosed_of_copyCurrent {sha256 : Bytes → String} (s : Loop × Option (List RegistryEntry))
    (e : Event) (hcurrent : CopyCurrent sha256 s e) : FailClosed sha256 s e := by
  intro registry hlast record hrecord
  cases e with
  | wake => cases hrecord
  | poll config => cases hrecord
  | cycle cycle =>
      cases hbegun : s.1.snapshot with
      | none =>
          simp only [executedBy, hbegun] at hrecord
          cases hrecord
      | some snapshot =>
          simp only [executedBy, hbegun] at hrecord
          simp only [fetchedLast, hbegun] at hlast
          have hused := registered_of_runOnce hrecord
          rw [usedRegistry_runOnce hrecord] at hused
          cases hfetched : (runOnce sha256 snapshot cycle).fetched with
          | some fetched =>
              rw [hfetched] at hlast hused
              have hsame : fetched = registry := Option.some.inj hlast
              rwa [← hsame]
          | none =>
              rw [hfetched] at hlast hused
              exact registered_mono hused (hcurrent cycle snapshot registry rfl hbegun hlast hfetched)

/-- A run in which no cycle goes by a copy that enables more than the last successful fetch runs no
collector that has been taken out. -/
theorem revocation_fail_closed (sha256 : Bytes → String) (runtime : RuntimeConfig) (events : List Event)
    (hcurrent : Trace.Along (fetchStep sha256) (CopyCurrent sha256) ({ runtime }, none) events) :
    Trace.Along (fetchStep sha256) (FailClosed sha256) ({ runtime }, none) events :=
  hcurrent.mono failClosed_of_copyCurrent

/-! ### When the copy is current -/

/-- A cycle that fetches the registry finds it not empty and goes on to its end. -/
def Stored (sha256 : Bytes → String) (s : Loop × Option (List RegistryEntry)) (e : Event) : Prop :=
  ∀ cycle snapshot registry, e = .cycle cycle → s.1.snapshot = some snapshot →
    (runOnce sha256 snapshot cycle).fetched = some registry →
      registry ≠ [] ∧ (runOnce sha256 snapshot cycle).ending ≠ none

/-- What was fetched last is the copy, and it is not empty. -/
structure Kept (s : Loop × Option (List RegistryEntry)) (registry : List RegistryEntry) : Prop where
  nonempty : registry ≠ []
  runtime : s.1.runtime.collectorRegistry = registry
  snapshot : ∀ snapshot, s.1.snapshot = some snapshot → snapshot.collectorRegistry = registry

def KeepsFetched (s : Loop × Option (List RegistryEntry)) : Prop :=
  ∀ registry, s.2 = some registry → Kept s registry

theorem collectorRegistry_applyServerConfig (runtime : RuntimeConfig)
    (config : Option Server.AgentConfig) :
    (runtime.applyServerConfig config).collectorRegistry = runtime.collectorRegistry := by
  cases config with
  | none => rfl
  | some config =>
      unfold RuntimeConfig.applyServerConfig
      by_cases hversion : config.configVersion ≥ runtime.configVersion
      · simp only [if_pos hversion]
      · simp only [if_neg hversion]

theorem identified_of_ending {sha256 : Bytes → String} {snapshot : RuntimeConfig} {cycle : Cycle}
    {ending : Ending} (hending : (runOnce sha256 snapshot cycle).ending = some ending) :
    (runOnce sha256 snapshot cycle).usedRegistry
      = (runOnce sha256 snapshot cycle).fetched.getD snapshot.collectorRegistry := by
  unfold runOnce at hending ⊢
  cases hidentity : identify cycle with
  | none =>
      simp only [hidentity] at hending
      cases hending
  | some identity => rfl

/-- A registry that is not empty and that the cycle goes by is the copy after it, if the cycle ends. -/
theorem collectorRegistry_settle {sha256 : Bytes → String} {runtime snapshot : RuntimeConfig}
    {cycle : Cycle} {ending : Ending} {registry : List RegistryEntry}
    (hending : (runOnce sha256 snapshot cycle).ending = some ending)
    (hused : (runOnce sha256 snapshot cycle).fetched.getD snapshot.collectorRegistry = registry)
    (hnonempty : registry ≠ []) :
    (settle runtime (runOnce sha256 snapshot cycle)).collectorRegistry = registry := by
  simp only [settle, hending, mergedRegistry]
  rw [identified_of_ending hending, hused, if_pos hnonempty]

theorem keepsFetched_cycle {sha256 : Bytes → String} {s : Loop} {last : Option (List RegistryEntry)}
    {cycle : Cycle} {snapshot : RuntimeConfig} (hbegun : s.snapshot = some snapshot)
    (h : KeepsFetched (s, last)) (hstored : Stored sha256 (s, last) (.cycle cycle)) :
    KeepsFetched (fetchStep sha256 (s, last) (.cycle cycle)) := by
  intro registry hlast
  simp only [fetchStep, Trace.withHistory, step, fetchedLast, hbegun] at hlast ⊢
  cases hfetched : (runOnce sha256 snapshot cycle).fetched with
  | some fetched =>
      rw [hfetched] at hlast
      have hsame : fetched = registry := Option.some.inj hlast
      obtain ⟨hnonempty, hends⟩ := hstored cycle snapshot fetched rfl hbegun hfetched
      obtain ⟨ending, hending⟩ := Option.ne_none_iff_exists'.mp hends
      have hused : (runOnce sha256 snapshot cycle).fetched.getD snapshot.collectorRegistry = registry := by
        rw [hfetched]
        exact hsame
      rw [hsame] at hnonempty
      exact
        { nonempty := hnonempty
          runtime := collectorRegistry_settle hending hused hnonempty
          snapshot := fun _ hnone => by cases hnone }
  | none =>
      rw [hfetched] at hlast
      have hkept := h registry hlast
      refine ⟨hkept.nonempty, ?_, fun _ hnone => by cases hnone⟩
      cases hending : (runOnce sha256 snapshot cycle).ending with
      | none =>
          simp only [settle, hending]
          exact hkept.runtime
      | some ending =>
          have hused : (runOnce sha256 snapshot cycle).fetched.getD snapshot.collectorRegistry
              = registry := by
            rw [hfetched]
            exact hkept.snapshot snapshot hbegun
          exact collectorRegistry_settle hending hused hkept.nonempty

theorem keepsFetched_step {sha256 : Bytes → String} (s : Loop × Option (List RegistryEntry)) (e : Event)
    (h : KeepsFetched s) (hstored : Stored sha256 s e) : KeepsFetched (fetchStep sha256 s e) := by
  obtain ⟨loop, last⟩ := s
  cases e with
  | wake =>
      intro registry hlast
      have hkept := h registry hlast
      refine ⟨hkept.nonempty, hkept.runtime, fun snapshot hsnapshot => ?_⟩
      rw [← Option.some.inj hsnapshot]
      exact hkept.runtime
  | poll config =>
      intro registry hlast
      have hkept := h registry hlast
      refine ⟨hkept.nonempty, ?_, hkept.snapshot⟩
      exact (collectorRegistry_applyServerConfig loop.runtime (some config)).trans hkept.runtime
  | cycle cycle =>
      cases hbegun : loop.snapshot with
      | none =>
          intro registry hlast
          simp only [fetchStep, Trace.withHistory, step, fetchedLast, hbegun] at hlast ⊢
          exact h registry hlast
      | some snapshot => exact keepsFetched_cycle hbegun h hstored

/-- Where no fetched registry is empty and no cycle fails after its fetch, the copy is always current. -/
theorem copyCurrent_of_stored (sha256 : Bytes → String) (runtime : RuntimeConfig) (events : List Event)
    (hstored : Trace.Along (fetchStep sha256) (Stored sha256) ({ runtime }, none) events) :
    Trace.Along (fetchStep sha256) (CopyCurrent sha256) ({ runtime }, none) events := by
  have hstart : KeepsFetched ({ runtime }, none) := by
    intro registry hnone
    cases hnone
  refine (hstored.with_invariant keepsFetched_step hstart).mono ?_
  intro s e hboth cycle snapshot registry hevent hbegun hlast hfetched entry hentry henabled
  rwa [(hboth.1 registry hlast).snapshot snapshot hbegun] at hentry

/-! ### An empty registry -/

/-- Fetches with the given outcome, and a heartbeat that is accepted. -/
def fetchCycle (fetched : Option (List RegistryEntry)) : Cycle where
  loaded := some (some { nodeId := "node-a", agentToken := "token" })
  fetch _ := fetched
  host := nvidiaHost fun _ => none
  heartbeat _ _ := .accepted { agentConfig := none }

def nvidiaRuntime : RuntimeConfig := { collectorRoot := some "gpu", collectorEnabled := ["nvidia"] }

theorem revocation_fail_closed_example :
    Trace.Along (fetchStep fun _ => emptySha256) (FailClosed fun _ => emptySha256)
      ({ runtime := nvidiaRuntime }, none)
      [.wake, .cycle (fetchCycle (some [nvidiaEntry])), .wake, .cycle (fetchCycle none)] := by
  apply revocation_fail_closed
  apply copyCurrent_of_stored
  refine ⟨?_, ?_, ?_, ?_, trivial⟩
  · intro cycle snapshot registry hevent
    cases hevent
  · intro cycle snapshot registry hevent hbegun hfetched
    cases hevent
    cases hbegun
    cases hfetched
    exact ⟨by decide, by decide⟩
  · intro cycle snapshot registry hevent
    cases hevent
  · intro cycle snapshot registry hevent hbegun hfetched
    cases hevent
    cases hbegun
    cases hfetched

/-- The registry becomes empty, which the agent is told, and then it cannot be fetched. -/
theorem revoked_collector_runs :
    ¬ Trace.Along (fetchStep fun _ => emptySha256) (FailClosed fun _ => emptySha256)
      ({ runtime := nvidiaRuntime }, none)
      [.wake, .cycle (fetchCycle (some [nvidiaEntry])), .wake, .cycle (fetchCycle (some [])), .wake,
        .cycle (fetchCycle none)] := by
  intro hclosed
  have hlast := hclosed.2.2.2.2.2.1 [] (by decide) (discoverRun none) (by decide)
  obtain ⟨entry, hentry, -⟩ := hlast
  cases hentry

end LightAI.Heartbeats
