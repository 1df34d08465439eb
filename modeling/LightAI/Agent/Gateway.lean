import LightAI.Agent.ManagedProcess

/-!
# The gateway

The agent starts and stops one gateway process and keeps a record of it in a state file. A start takes a
record that cannot be read for no record; a stop refuses to go on without it. The kill of a gateway is a
signal, whose effect is not waited for.
-/

namespace LightAI.Agent

structure GatewayProcessSpec where
  binaryPath : String
  configPath : String
  workDir : String
  logPath : String
  healthUrl : String

structure GatewayTaskResult where
  gatewayStatus : String
  message : String
  processId : Option Int := none
  processRef : Option String := none
  healthUrl : Option String := none
  logTail : Option String := none
  command : Option String := none

def gatewayFailure (message : String) : GatewayTaskResult := { gatewayStatus := "failed", message }

/-! ### The specification of a gateway -/

def validateNonEmptyPath (field path : String) : Except String Unit :=
  if path = "" then .error (field ++ " must not be empty")
  else if path.toList.contains (Char.ofNat 0) then .error (field ++ " must not contain NUL bytes")
  else .ok ()

def validateControlledPath (field path : String) : Except String Unit := do
  validateNonEmptyPath field path
  if ".." ∈ Text.components path then
    .error (field ++ " must not contain parent directory components")
  else .ok ()

def validateHealthUrl (deps : External) (value : String) : Except String Unit :=
  match deps.parseUrl value with
  | none => .error "health_url is invalid"
  | some parsed =>
      if parsed.scheme ≠ "http" ∧ parsed.scheme ≠ "https" then
        .error "health_url must use http:// or https://"
      else if parsed.host ∉ [some "127.0.0.1", some "localhost", some "::1"] then
        .error "health_url must target localhost or loopback"
      else if parsed.path ≠ "/health" then .error "health_url path must be /health"
      else if parsed.query.isSome then .error "health_url must not include query parameters"
      else .ok ()

namespace GatewayProcessSpec

variable (spec : GatewayProcessSpec)

/-- The state path is the agent's own. -/
def validate (deps : External) (statePath : String) : Except String Unit := do
  validateNonEmptyPath "binary_path" spec.binaryPath
  validateNonEmptyPath "config_path" spec.configPath
  validateControlledPath "work_dir" spec.workDir
  validateControlledPath "log_path" spec.logPath
  validateControlledPath "state_path" statePath
  validateHealthUrl deps spec.healthUrl
  if Text.isRoot spec.workDir then .error "work_dir must not be filesystem root"
  else if Text.fileName spec.logPath ≠ some "lightai-gateway.log" then
    .error "log_path file name must be lightai-gateway.log"
  else .ok ()

def args : List String := ["--config", spec.configPath]

def command : String := spec.binaryPath ++ " " ++ " ".intercalate spec.args

end GatewayProcessSpec

def requiredPath (payload : Json) (field : String) : Except String String :=
  match payload.getStr field with
  | some path => .ok path
  | none => .error ("Gateway task missing " ++ field)

def gatewaySpecFromPayload (payload : Json) : Except String GatewayProcessSpec := do
  let binaryPath ← requiredPath payload "binary_path"
  let configPath ← requiredPath payload "config_path"
  let workDir ← requiredPath payload "work_dir"
  let logPath ← requiredPath payload "log_path"
  let healthUrl ← requiredPath payload "health_url"
  pure { binaryPath, configPath, workDir, logPath, healthUrl }

/-! ### The state file -/

def loadRecord : Async (Except String (Option GatewayProcessRecord)) := perform .readGateway

def saveRecord (record : GatewayProcessRecord) : Async (Except String Unit) :=
  perform (.writeGateway record)

def gatewayCheck (record : GatewayProcessRecord) : Option Nat → ProcessCheck
  | none => { isRunning := false, message := "Gateway process not found; may have exited" }
  | some currentStartTime =>
      if record.processStartTime.any (currentStartTime ≠ ·) then
        { isRunning := false
          message := "PID reused by another process; cannot confirm as managed Gateway" }
      else { isRunning := true, message := "Gateway process is running" }

def checkGatewayRecord (record : GatewayProcessRecord) : Async ProcessCheck := do
  let currentStartTime ← processStartTime record.processId
  pure (gatewayCheck record currentStartTime)

def gatewayKilled : CommandOutcome → Except String Unit
  | .exited true .. => .ok ()
  | .exited false status _ _ => .error ("Failed to stop Gateway: kill exit status " ++ status)
  | .spawnFailed error => .error ("Failed to stop Gateway: " ++ error)
  | .timedOut => .error "Failed to stop Gateway"

def killProcess (pid : Int) : Async (Except String Unit) := do
  let outcome ← await (.kill pid)
  pure (gatewayKilled outcome)

/-! ### The tasks -/

namespace GatewayProcessRecord

variable (record : GatewayProcessRecord)

/-- A result about a recorded gateway. -/
def result (gatewayStatus message : String) : GatewayTaskResult :=
  { gatewayStatus
    message
    processId := some record.processId
    processRef := some (toString record.processId)
    healthUrl := some record.healthUrl
    command := some record.command }

end GatewayProcessRecord

/-- A gateway that has been spawned is recorded. Its handle is dropped, which does not end it. -/
def recordGateway (spec : GatewayProcessSpec) (child : Child) : Async GatewayTaskResult := do
  let startTime ← processStartTime child.processId
  let startedAt ← await .nowUnixSecs
  let record : GatewayProcessRecord :=
    { processId := child.processId
      processStartTime := startTime
      healthUrl := spec.healthUrl
      command := spec.command
      logPath := spec.logPath
      startedAt }
  let saved ← saveRecord record
  match saved with
  | .error error => pure (gatewayFailure ("Failed to save Gateway state: " ++ error))
  | .ok _ => pure (record.result "running" "Gateway started")

def launchGateway (spec : GatewayProcessSpec) : Async GatewayTaskResult := do
  let prepared ← await (.prepareGateway spec.logPath)
  match prepared with
  | .error message => pure (gatewayFailure message)
  | .ok _ => do
      let spawned ← await (.spawnGateway spec.binaryPath spec.args spec.workDir)
      match spawned with
      | .error error => pure (gatewayFailure ("Failed to start Gateway: " ++ error))
      | .ok child => recordGateway spec child

def startGateway (deps : External) (statePath : String) (spec : GatewayProcessSpec) :
    Async GatewayTaskResult :=
  match spec.validate deps statePath with
  | .error message => pure (gatewayFailure message)
  | .ok _ => do
      let loaded ← loadRecord
      match loaded with
      | .ok (some record) => do
          let check ← checkGatewayRecord record
          if check.isRunning then pure (record.result "running" "Gateway is already running")
          else launchGateway spec
      | _ => launchGateway spec

/-- The signal is sent where the check finds the process. -/
def stopRecordedGateway (record : GatewayProcessRecord) : Async GatewayTaskResult := do
  let check ← checkGatewayRecord record
  let killed ← if check.isRunning then killProcess record.processId else pure (.ok ())
  match killed with
  | .error message => pure (gatewayFailure message)
  | .ok _ => do
      let _ ← perform .removeGateway
      pure (record.result "stopped" "Gateway stopped")

def stopGateway : Async GatewayTaskResult := do
  let loaded ← loadRecord
  match loaded with
  | .error error => pure (gatewayFailure ("Failed to load Gateway state: " ++ error))
  | .ok none => pure { gatewayStatus := "stopped", message := "Gateway is not running" }
  | .ok (some record) => stopRecordedGateway record

def checkGateway : Async GatewayTaskResult := do
  let loaded ← loadRecord
  match loaded with
  | .error error => pure (gatewayFailure ("Failed to load Gateway state: " ++ error))
  | .ok none => pure (gatewayFailure "Gateway is not running")
  | .ok (some record) => do
      let check ← checkGatewayRecord record
      if check.isRunning then do
        let health ← await (.gatewayHealth record.healthUrl)
        match health with
        | .ok status =>
            pure (record.result "running" ("Gateway health check succeeded: HTTP " ++ status))
        | .error error => pure (gatewayFailure ("Gateway health check " ++ error))
      else pure (gatewayFailure check.message)

def restartGateway (deps : External) (statePath : String) (spec : GatewayProcessSpec) :
    Async GatewayTaskResult := do
  let stopped ← stopGateway
  if stopped.gatewayStatus = "failed" then pure stopped else startGateway deps statePath spec

inductive GatewayTask where
  | start (payload : Json)
  | stop
  | restart (payload : Json)
  | check

/-- How the agent handles a task that is about the gateway. -/
def GatewayTask.handle (deps : External) (statePath : String) : GatewayTask → Async GatewayTaskResult
  | .start payload =>
      match gatewaySpecFromPayload payload with
      | .error message => pure (gatewayFailure message)
      | .ok spec => startGateway deps statePath spec
  | .stop => stopGateway
  | .restart payload =>
      match gatewaySpecFromPayload payload with
      | .error message => pure (gatewayFailure message)
      | .ok spec => restartGateway deps statePath spec
  | .check => checkGateway

end LightAI.Agent
