import LightAI.Agent.ManagedProcess
import LightAI.Agent.Ollama

/-!
# Starting and stopping an instance

A start goes through several checks after the process exists. Some of the exits between them kill the
child, others only give up its handle, which does not end it. A stop looks for a docker record first,
then for the handle of a child, and then for any other record.
-/

namespace LightAI.Agent

/-- A text of a payload, empty where there is none. -/
def payloadText (payload : Json) (key : String) : String := (payload.getStr key).getD ""

/-- The first line of a log that says something. -/
def firstLogLine (logTail : Option String) : Option String := do
  let text ← logTail
  let line ← ((Text.lines text).map Text.trim).find? fun line =>
    line ≠ "" && line ≠ "stdout:" && line ≠ "stderr:"
  pure (Text.takeChars 220 line)

def logTailWithPath : Option String → Option String → Option String
  | some path, some tail => some ("log file: " ++ path ++ "\n" ++ tail)
  | some path, none => some ("log file: " ++ path)
  | none, tail => tail

def isCustomScript (payload : Json) : Bool :=
  payload.getStr "backend" = some "custom" && payload.getStr "deploy_type" = some "script"

/-- Whether the parameters of the instance name the paths to probe. -/
def probePathsSet (deps : External) (payload : Json) : Bool :=
  let params := (payload.get? "params_json").getD .null
  (((jsonOrText deps params).get? "probe_paths").bind Json.asArray).isSome

/-! ### Starting a local process -/

/-- A process whose start is under way. -/
structure StartingProcess where
  instanceId : String
  payload : Json
  plan : LaunchPlan
  child : Child
  startTime : Option Nat

namespace StartingProcess

variable (p : StartingProcess)

def failure (message : String) (logTail : Option String) : ModelInstanceTaskResult :=
  instanceFailureWithDetails message logTail (some p.plan.command)

def record (logPath : Option String) (startedAt : Int) : ManagedProcessRecord :=
  { instanceId := p.instanceId
    processId := p.child.processId
    processStartTime := p.startTime
    baseUrl := some p.plan.baseUrl
    endpointUrl := some p.plan.baseUrl
    command := some p.plan.command
    logPath
    startedAt
    deployType := some "local" }

def running (logTail : Option String) : ModelInstanceTaskResult :=
  { instanceStatus := "running"
    message := "local instance started, listening at " ++ p.plan.baseUrl
    baseUrl := some p.plan.baseUrl
    endpointUrl := some p.plan.baseUrl
    processId := some p.child.processId
    processRef := some p.instanceId
    logTail
    command := some p.plan.command }

/-- The child enters the registry. -/
def register (logTail : Option String) : Async ModelInstanceTaskResult := do
  let _ ← perform (.insertHandle p.instanceId { child := p.child, command := p.plan.command })
  pure (p.running logTail)

/-- The record of the child is written, unless there is no store. -/
def writeRecord (store : Bool) (logPath : Option String) : Async ModelInstanceTaskResult := do
  let tail ← await (.readLog p.child)
  let initialLogTail := logTailWithPath logPath tail
  if store then do
    let startedAt ← await .nowUnixSecs
    let written ← upsert (p.record logPath startedAt)
    match written with
    | .ok _ => p.register initialLogTail
    | .error error => do
        let _ ← await (.killChild p.child)
        let logTail ← await (.readLog p.child)
        pure (p.failure
          ("failed to write managed process record; instance stopped: " ++ error) logTail)
  else p.register initialLogTail

/-- The child is looked at once more after its service has become ready. -/
def verify (store : Bool) (logPath : Option String) : Async ModelInstanceTaskResult := do
  let waited ← await (.tryWait p.child)
  match waited with
  | .ok none => p.writeRecord store logPath
  | .ok (some status) => do
      let logTail ← await (.readLog p.child)
      let detail := (firstLogLine logTail).getD status
      pure (p.failure
        ("local process exited unexpectedly after service became ready: " ++ detail) logTail)
  | .error error => do
      let _ ← await (.killChild p.child)
      let logTail ← await (.readLog p.child)
      pure (p.failure ("failed to verify process status: " ++ error) logTail)

/-- A custom script without paths to probe is ready when it still runs after a while. -/
def serviceReady (deps : External) : Async Bool :=
  if isCustomScript p.payload && !probePathsSet deps p.payload then do
    let waited ← await (.tryWait p.child)
    match waited with
    | .ok none => pure true
    | _ => pure false
  else await (.endpointReady p.plan p.payload)

def awaitReady (deps : External) (store : Bool) (logPath : Option String) :
    Async ModelInstanceTaskResult := do
  let ready ← p.serviceReady deps
  if ready then p.verify store logPath
  else do
    let _ ← await (.killChild p.child)
    let logTail ← await (.readLog p.child)
    let detail := (firstLogLine logTail).getD "port or health endpoint not ready"
    pure (p.failure ("local process started but service unavailable: " ++ detail) logTail)

/-- The child must have survived its first moments. -/
def awaitStart (deps : External) (store : Bool) (logPath : Option String) :
    Async ModelInstanceTaskResult := do
  let waited ← await (.tryWait p.child)
  match waited with
  | .ok none => p.awaitReady deps store logPath
  | .ok (some status) => do
      let logTail ← await (.readLog p.child)
      let detail := (firstLogLine logTail).getD status
      pure (p.failure ("process exited: " ++ detail) logTail)
  | .error error => do
      let logTail ← await (.readLog p.child)
      pure (p.failure ("failed to verify process status: " ++ error) logTail)

def openLog (deps : External) (store : Bool) : Async ModelInstanceTaskResult :=
  match ((p.payload.getStr "log_dir").map Text.trim).filter (· ≠ "") with
  | none => p.awaitStart deps store none
  | some logDir => do
      let opened ← await (.controlledLogPath logDir p.instanceId)
      match opened with
      | .ok path => p.awaitStart deps store (some path)
      | .error message => pure (p.failure ("log directory unavailable: " ++ message) none)

end StartingProcess

def startLocalInstance (deps : External) (instanceId : String) (payload : Json) (store : Bool) :
    Async ModelInstanceTaskResult := do
  let prepared ← await (.prepare payload)
  match prepared with
  | .error message => pure (instanceFailure message)
  | .ok plan => do
      let spawned ← await (.spawn plan)
      match spawned with
      | .error error =>
          pure (instanceFailureWithDetails ("process start failed: " ++ error) none
            (some plan.command))
      | .ok child => do
          let startTime ← processStartTime child.processId
          StartingProcess.openLog { instanceId, payload, plan, child, startTime } deps store

/-! ### Starting a container -/

/-- The record of a container that has started is written, unless there is no store. -/
def writeContainerRecord (instanceId containerName : String) (store : Bool)
    (result : ModelInstanceTaskResult) : Async ModelInstanceTaskResult := do
  let now ← await .nowUnixSecs
  if store then do
    let written ← upsert (createDockerManagedRecord instanceId (result.processRef.getD "")
      containerName (result.baseUrl.getD "") (result.command.getD "") now)
    match written with
    | .ok _ => pure result
    | .error error =>
        pure (instanceFailureWithDetails ("failed to write Docker managed record: " ++ error) none
          (some (result.command.getD "")))
  else pure result

def startDockerInstance (deps : External) (instanceId : String) (payload : Json) (store : Bool) :
    Async ModelInstanceTaskResult := do
  let dockerPayload := resolveDockerPayload deps payload
  let result ← startDockerContainer deps dockerPayload
  if result.instanceStatus = "running" then
    writeContainerRecord instanceId dockerPayload.docker.containerName store result
  else pure result

def startModelInstanceWithStore (deps : External) (payload : Json) (store : Bool) :
    Async ModelInstanceTaskResult :=
  let instanceId := payloadText payload "instance_id"
  if payloadText payload "deploy_type" = "docker" then
    startDockerInstance deps instanceId payload store
  else if payloadText payload "backend" = "ollama" then startOllamaInstance deps payload
  else startLocalInstance deps instanceId payload store

/-! ### Stopping -/

def stoppedResult (message : String) (logTail command : Option String) : ModelInstanceTaskResult :=
  { instanceStatus := "stopped", message, logTail, command }

/-- The record is removed and the answer is that the instance has stopped, whether or not docker has
stopped the container. -/
def stopDockerInstance (instanceId : String) (record : ManagedProcessRecord) :
    Async ModelInstanceTaskResult := do
  let stopped ← stopDockerContainer record
  let _ ← remove instanceId
  match stopped with
  | .ok _ => pure (stoppedResult "Docker container stopped" none record.command)
  | .error message => pure (stoppedResult message none record.command)

/-- Stops what a record names, when there is no handle of a child. -/
def stopRecorded (deps : External) (instanceId : String) (store : Bool) :
    Async ModelInstanceTaskResult :=
  if store then do
    let found ← find instanceId
    match found with
    | .error error =>
        pure (instanceFailure
          ("failed to read managed process record; refusing to stop: " ++ error))
    | .ok none =>
        pure (instanceFailure
          "no platform managed process record found; refusing to stop this instance")
    | .ok (some record) => do
        let killed ← killManaged deps record
        let removed ← remove instanceId
        match killed, removed with
        | .ok _, .error error =>
            pure (instanceFailure
              ("instance process stopped but failed to clean managed record: " ++ error))
        | .ok _, .ok _ =>
            pure (stoppedResult "instance stopped using platform managed process record" none
              record.command)
        | .error message, _ => pure (stoppedResult message none record.command)
  else pure (instanceFailure ("no local process reference found and no managed process record " ++
    "configured; refusing to stop"))

/-- Stops the child of a handle that has been taken out of the registry. -/
def stopChild (instanceId : String) (store : Bool) (handle : ProcessHandle) :
    Async ModelInstanceTaskResult := do
  let killed ← await (.killChild handle.child)
  match killed with
  | .error error => pure (instanceFailure ("failed to stop process: " ++ error))
  | .ok _ => do
      let removed ← if store then remove instanceId else pure (.ok ())
      match removed with
      | .error error =>
          pure (instanceFailure
            ("local instance process stopped but failed to clean managed record: " ++ error))
      | .ok _ => do
          let logTail ← await (.readLog handle.child)
          pure (stoppedResult "local instance process stopped" logTail (some handle.command))

/-- The docker record of an instance, as far as the store can be read. -/
def findDocker (instanceId : String) (store : Bool) : Async (Option ManagedProcessRecord) :=
  if store then do
    let found ← find instanceId
    match found with
    | .ok record => pure (record.filter (·.isDocker))
    | .error _ => pure none
  else pure none

def stopModelInstanceWithStore (deps : External) (payload : Json) (store : Bool) :
    Async ModelInstanceTaskResult := do
  let instanceId := payloadText payload "instance_id"
  let docker ← findDocker instanceId store
  match docker with
  | some record => stopDockerInstance instanceId record
  | none => do
      let handle ← perform (.removeHandle instanceId)
      match handle with
      | none => stopRecorded deps instanceId store
      | some handle => stopChild instanceId store handle

/-! ### Checks and tests -/

/-- A test of a service by a script of its own, or by requests to its URL. -/
def testModelInstance (payload : Json) : Async ModelInstanceTaskResult :=
  if isCustomScript payload then await (.runScript payload "test")
  else match (payload.getStr "endpoint_url").or (payload.getStr "base_url") with
    | none => pure (instanceFailure "instance missing test URL")
    | some url => await (.testUrls payload url)

end LightAI.Agent
