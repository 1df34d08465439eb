import LightAI.Agent.Heartbeat

/-!
# What a registration does to the configuration

The configuration of a registration goes the way of every other: the agent takes it over unless its version
is lower than that of what the agent has.
-/

namespace LightAI.Heartbeats

open Server (AgentConfig)
open Agent (RuntimeConfig sent)
open Collectors (Bytes)

/-- After a cycle that has registered, the agent has the content of the configuration that it got with the
registration, or of the one that came with the response after it. -/
def InstallsRegistered (sha256 : Bytes → String) (s : Loop) (cycle : Cycle) : Prop :=
  ∀ snapshot ending config, s.snapshot = some snapshot →
    (runOnce sha256 snapshot cycle).ending = some ending → ending.registered = some config →
      ∃ installed, (installed = config ∨ ending.response.agentConfig = some installed) ∧
        (step sha256 s (.cycle cycle)).runtime.held.content = (sent installed).content

theorem held_settle {runtime : RuntimeConfig} {round : Round} {ending : Ending}
    (hending : round.ending = some ending) :
    (settle runtime round).held = (runtime.applyServerConfig ending.nextConfig).held := by
  simp only [settle, hending]
  rfl

theorem runtime_cycle {sha256 : Bytes → String} {s : Loop} {cycle : Cycle} {snapshot : RuntimeConfig}
    (hbegun : s.snapshot = some snapshot) :
    (step sha256 s (.cycle cycle)).runtime = settle s.runtime (runOnce sha256 snapshot cycle) := by
  simp only [step, hbegun]

/-- A cycle that has registered installs the configuration of its response, or else that of the
registration, unless the version is lower than the one that the agent has. Then the agent keeps what it
has. -/
theorem registration_installs (sha256 : Bytes → String) (s : Loop) (cycle : Cycle)
    (snapshot : RuntimeConfig) (ending : Ending) (config : AgentConfig)
    (hbegun : s.snapshot = some snapshot)
    (hending : (runOnce sha256 snapshot cycle).ending = some ending)
    (hregistered : ending.registered = some config) :
    let installed := ending.response.agentConfig.getD config
    let held := (step sha256 s (.cycle cycle)).runtime.held
    (s.runtime.configVersion ≤ installed.configVersion → held = sent installed) ∧
      (installed.configVersion < s.runtime.configVersion → held = s.runtime.held) := by
  intro installed held
  have hnext : ending.nextConfig = some installed := by
    unfold Ending.nextConfig installed
    rw [hregistered]
    cases ending.response.agentConfig with
    | none => rfl
    | some answered => rfl
  have hheld : held = s.runtime.held.newest (sent installed) := by
    calc
      held = (settle s.runtime (runOnce sha256 snapshot cycle)).held := by
        unfold held
        rw [runtime_cycle hbegun]
      _ = (s.runtime.applyServerConfig ending.nextConfig).held := held_settle hending
      _ = (s.runtime.applyServerConfig (some installed)).held := by rw [hnext]
      _ = s.runtime.held.newest (sent installed) := Agent.held_applyServerConfig s.runtime installed
  constructor
  · intro hversion
    rw [hheld]
    exact if_pos hversion
  · intro hversion
    rw [hheld]
    exact if_neg (not_le.mpr hversion)

/-! ### Versions that start again -/

/-- What a server with a new database sends. -/
def restartedConfig : AgentConfig := { configVersion := 1, heartbeatIntervalSecs := 30 }

/-- The token is not accepted, and the agent registers again. -/
def reregisterCycle : Cycle where
  loaded := some (some { nodeId := "node-a", agentToken := "old" })
  fetch _ := none
  host := Collectors.nvidiaHost fun _ => none
  heartbeat _ _ := .unauthorized
  reregistration :=
    { answer := some { nodeId := "node-a", agentToken := "new", agentConfig := some restartedConfig } }
  secondHeartbeat _ _ := .accepted { agentConfig := some restartedConfig }

def runtimeAt (version : Int) : RuntimeConfig := { configVersion := version }

def begunAt (version : Int) : Loop where
  runtime := runtimeAt version
  snapshot := some (runtimeAt version)

def reregisterEnding : Ending where
  registered := some restartedConfig
  response := { agentConfig := some restartedConfig }

theorem registration_installs_example :
    (step (fun _ => "") (begunAt 1) (.cycle reregisterCycle)).runtime.held = sent restartedConfig :=
  (registration_installs (fun _ => "") (begunAt 1) reregisterCycle (runtimeAt 1) reregisterEnding
    restartedConfig rfl (by decide) rfl).1 (by decide)

theorem registration_not_installed :
    ¬ InstallsRegistered (fun _ => "") (begunAt 5) reregisterCycle := by
  intro hinstalls
  obtain ⟨installed, hfrom, hcontent⟩ := hinstalls (runtimeAt 5) reregisterEnding restartedConfig rfl
    (by decide) rfl
  have hinstalled : installed = restartedConfig := by
    rcases hfrom with hfrom | hfrom
    · exact hfrom
    · exact (Option.some.inj hfrom).symm
  rw [hinstalled] at hcontent
  exact absurd hcontent (by decide)

end LightAI.Heartbeats
