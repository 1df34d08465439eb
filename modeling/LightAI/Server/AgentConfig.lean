import Mathlib

/-!
# The configuration that the server hands to an agent

Built-in values, overridden by the global policy, overridden by the node's policy.
-/

namespace LightAI.Server

structure LogPolicy where
  logDir : String := "logs"
  logLevel : String := "info"
  logMaxFileBytes : Nat := 10 * 1024 * 1024
  logRetentionFiles : Nat := 5
  logRetentionDays : Nat := 7
  deriving DecidableEq

structure AgentConfig where
  configVersion : Int := 0
  heartbeatIntervalSecs : Nat := 15
  metricsSampleIntervalSecs : Nat := 15
  taskPollIntervalSecs : Nat := 15
  configRefreshIntervalSecs : Nat := 60
  commandTimeoutSecs : Nat := 5
  environmentCheckTimeoutSecs : Nat := 5
  allowedModelDirs : List String := []
  collectorTimeoutSecs : Nat := 5
  collectorMaxOutputBytes : Nat := 1024 * 1024
  logPolicy : LogPolicy := {}
  lastConfigUpdatedAt : Option Int := none
  deriving DecidableEq

structure AgentConfigPolicy where
  heartbeatIntervalSecs : Option Nat := none
  metricsSampleIntervalSecs : Option Nat := none
  commandTimeoutSecs : Option Nat := none
  environmentCheckTimeoutSecs : Option Nat := none
  allowedModelDirs : Option (List String) := none
  collectorTimeoutSecs : Option Nat := none
  collectorMaxOutputBytes : Option Nat := none
  logDir : Option String := none
  logLevel : Option String := none
  logMaxFileBytes : Option Nat := none
  logRetentionFiles : Option Nat := none
  logRetentionDays : Option Nat := none
  deriving DecidableEq

/-- A row of `agent_config_policies`, keyed by scope and node. -/
structure AgentConfigPolicyRow where
  scope : String
  nodeId : String
  policy : AgentConfigPolicy
  version : Int
  updatedAt : Int

def AgentConfigPolicyRow.key (row : AgentConfigPolicyRow) : String × String :=
  (row.scope, row.nodeId)

def heartbeatIntervalSecs : Nat := 15

def agentConfigVersion : Int := 1

def defaultAgentConfig (updatedAt : Int) : AgentConfig :=
  { configVersion := agentConfigVersion
    heartbeatIntervalSecs := heartbeatIntervalSecs
    metricsSampleIntervalSecs := heartbeatIntervalSecs
    commandTimeoutSecs := 5
    environmentCheckTimeoutSecs := 5
    lastConfigUpdatedAt := some updatedAt }

def applyPolicyLayer (config : AgentConfig) (policy : AgentConfigPolicy) : AgentConfig :=
  { config with
    heartbeatIntervalSecs := policy.heartbeatIntervalSecs.getD config.heartbeatIntervalSecs
    metricsSampleIntervalSecs :=
      policy.metricsSampleIntervalSecs.getD config.metricsSampleIntervalSecs
    commandTimeoutSecs := policy.commandTimeoutSecs.getD config.commandTimeoutSecs
    environmentCheckTimeoutSecs :=
      policy.environmentCheckTimeoutSecs.getD config.environmentCheckTimeoutSecs
    allowedModelDirs := policy.allowedModelDirs.getD config.allowedModelDirs
    collectorTimeoutSecs := policy.collectorTimeoutSecs.getD config.collectorTimeoutSecs
    collectorMaxOutputBytes := policy.collectorMaxOutputBytes.getD config.collectorMaxOutputBytes
    logPolicy :=
      { logDir := policy.logDir.getD config.logPolicy.logDir
        logLevel := policy.logLevel.getD config.logPolicy.logLevel
        logMaxFileBytes := policy.logMaxFileBytes.getD config.logPolicy.logMaxFileBytes
        logRetentionFiles := policy.logRetentionFiles.getD config.logPolicy.logRetentionFiles
        logRetentionDays := policy.logRetentionDays.getD config.logPolicy.logRetentionDays } }

def applyPolicy (config : AgentConfig) (global node : AgentConfigPolicy) (version updatedAt : Int) :
    AgentConfig :=
  { applyPolicyLayer (applyPolicyLayer config global) node with
    configVersion := version
    lastConfigUpdatedAt := some updatedAt }

end LightAI.Server
