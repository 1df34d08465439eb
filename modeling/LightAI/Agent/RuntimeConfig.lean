import LightAI.Base.Versioned
import LightAI.Server.AgentConfig

/-!
# The configuration that the agent runs under

What the server sends is taken over unless its version is lower than that of what the agent has. The
fields about collectors come from the agent's own configuration file, and the registry from the server's
own list.
-/

namespace LightAI.Agent

open Server

/-- An entry of the registry as the server sends it. -/
structure RegistryEntry where
  id : String
  version : String
  discoverSha256 : String
  metricsSha256 : String
  enabled : Bool
  deriving DecidableEq

structure RuntimeConfig where
  configVersion : Int := 0
  heartbeatIntervalSecs : Nat := 15
  metricsSampleIntervalSecs : Nat := 15
  commandTimeoutSecs : Nat := 5
  environmentCheckTimeoutSecs : Nat := 5
  allowedModelDirs : List String := []
  collectorTimeoutSecs : Nat := 5
  collectorMaxOutputBytes : Nat := 1024 * 1024
  collectorRoot : Option String := none
  collectorMode : String := "explicit"
  collectorEnabled : List String := []
  collectorDisabled : List String := []
  collectorRegistry : List RegistryEntry := []
  logPolicy : LogPolicy := {}
  lastConfigUpdatedAt : Option Int := none
  deriving DecidableEq

/-- The part of the agent's configuration file that `RuntimeConfig` starts from. -/
structure CollectorSettings where
  collectorRoot : Option String := none
  collectorMode : String := "explicit"
  collectorEnabled : List String := []
  collectorDisabled : List String := []

namespace RuntimeConfig

def defaultEffective : RuntimeConfig := {}

def fromConfig (config : CollectorSettings) : RuntimeConfig :=
  { defaultEffective with
    collectorRoot := config.collectorRoot
    collectorMode := config.collectorMode
    collectorEnabled := config.collectorEnabled
    collectorDisabled := config.collectorDisabled }

def applyServerConfig (runtime : RuntimeConfig) : Option AgentConfig → RuntimeConfig
  | none => runtime
  | some config =>
      if config.configVersion ≥ runtime.configVersion then
        { runtime with
          configVersion := config.configVersion
          heartbeatIntervalSecs := config.heartbeatIntervalSecs
          metricsSampleIntervalSecs := config.metricsSampleIntervalSecs
          commandTimeoutSecs := config.commandTimeoutSecs
          environmentCheckTimeoutSecs := config.environmentCheckTimeoutSecs
          allowedModelDirs := config.allowedModelDirs
          collectorTimeoutSecs := config.collectorTimeoutSecs
          collectorMaxOutputBytes := config.collectorMaxOutputBytes
          logPolicy := config.logPolicy
          lastConfigUpdatedAt := config.lastConfigUpdatedAt }
      else runtime

end RuntimeConfig

/-! ### Content and version -/

/-- The fields of a configuration that the agent keeps, apart from the version and the time. -/
structure ConfigContent where
  heartbeatIntervalSecs : Nat
  metricsSampleIntervalSecs : Nat
  commandTimeoutSecs : Nat
  environmentCheckTimeoutSecs : Nat
  allowedModelDirs : List String
  collectorTimeoutSecs : Nat
  collectorMaxOutputBytes : Nat
  logPolicy : LogPolicy
  deriving DecidableEq

/-- A configuration as the server sends it, without the time. -/
def sent (config : AgentConfig) : Stamped Int ConfigContent where
  version := config.configVersion
  content :=
    { heartbeatIntervalSecs := config.heartbeatIntervalSecs
      metricsSampleIntervalSecs := config.metricsSampleIntervalSecs
      commandTimeoutSecs := config.commandTimeoutSecs
      environmentCheckTimeoutSecs := config.environmentCheckTimeoutSecs
      allowedModelDirs := config.allowedModelDirs
      collectorTimeoutSecs := config.collectorTimeoutSecs
      collectorMaxOutputBytes := config.collectorMaxOutputBytes
      logPolicy := config.logPolicy }

/-- The configuration that the agent holds. -/
def RuntimeConfig.held (runtime : RuntimeConfig) : Stamped Int ConfigContent where
  version := runtime.configVersion
  content :=
    { heartbeatIntervalSecs := runtime.heartbeatIntervalSecs
      metricsSampleIntervalSecs := runtime.metricsSampleIntervalSecs
      commandTimeoutSecs := runtime.commandTimeoutSecs
      environmentCheckTimeoutSecs := runtime.environmentCheckTimeoutSecs
      allowedModelDirs := runtime.allowedModelDirs
      collectorTimeoutSecs := runtime.collectorTimeoutSecs
      collectorMaxOutputBytes := runtime.collectorMaxOutputBytes
      logPolicy := runtime.logPolicy }

/-- The agent keeps the newest of what it has and what arrives. -/
theorem held_applyServerConfig (runtime : RuntimeConfig) (config : AgentConfig) :
    (runtime.applyServerConfig (some config)).held = runtime.held.newest (sent config) := by
  simp only [RuntimeConfig.applyServerConfig, Stamped.newest]
  by_cases hversion : config.configVersion ≥ runtime.configVersion
  · rw [if_pos hversion]
    exact (if_pos hversion).symm
  · rw [if_neg hversion]
    exact (if_neg hversion).symm

end LightAI.Agent
