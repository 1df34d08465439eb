import LightAI.Agent.DockerConfig

/-!
# Starting, stopping and inspecting containers

Each of these runs the `docker` command once and reads how it ended. What docker has done when the
command fails or times out is not asked for.
-/

namespace LightAI.Agent

def instanceFailureWithDetails (message : String) (logTail command : Option String) :
    ModelInstanceTaskResult :=
  { instanceStatus := "failed", message, logTail, command }

def instanceFailure (message : String) : ModelInstanceTaskResult :=
  instanceFailureWithDetails message none none

/-! ### Starting -/

/-- What the end of `docker run` makes of a start. -/
def dockerRunResult (payload : DockerPayload) (commandSummary : String) :
    CommandOutcome → ModelInstanceTaskResult
  | .spawnFailed error =>
      instanceFailureWithDetails ("Docker run failed: " ++ error) none (some commandSummary)
  | .timedOut => instanceFailureWithDetails "Docker run timed out" none (some commandSummary)
  | .exited false _ _ stderr =>
      let detail := Text.takeChars 300 ((Text.lines stderr).head?.getD "Docker run failed")
      instanceFailureWithDetails ("Docker run failed：" ++ detail)
        (some (Text.takeChars 4096 stderr)) (some commandSummary)
  | .exited true _ stdout _ =>
      let containerId := Text.trim stdout
      let hostPort := (payload.docker.ports.head?.map (·.host)).getD 8000
      let baseUrl := "http://127.0.0.1:" ++ toString hostPort
      { instanceStatus := "running"
        message := "Docker container started container_id=" ++ containerId
        baseUrl := some baseUrl
        endpointUrl := some baseUrl
        processRef := some containerId
        command := some commandSummary }

def startDockerContainer (deps : External) (payload : DockerPayload) :
    Async ModelInstanceTaskResult :=
  match buildDockerRunArgs payload with
  | .error message => pure (instanceFailure message)
  | .ok dockerArgs => do
      let vllmArgs := buildVllmArgs deps payload
      let commandSummary :=
        dockerCommandSummary deps (Text.trim payload.docker.image) dockerArgs vllmArgs
      let outcome ← await (.dockerRun (dockerArgs ++ vllmArgs))
      pure (dockerRunResult payload commandSummary outcome)

def createDockerManagedRecord (instanceId containerId containerName baseUrl commandSummary : String)
    (startedAt : Int) : ManagedProcessRecord :=
  { instanceId
    processId := 0
    processStartTime := none
    baseUrl := some baseUrl
    endpointUrl := some baseUrl
    command := some commandSummary
    logPath := none
    startedAt
    containerId := some containerId
    containerName := some containerName
    deployType := some "docker" }

/-! ### Stopping and inspecting -/

structure DockerContainerStatus where
  running : Bool
  message : String
  exitCode : Option Int

def dockerStateField (container : Json) (field : String) : Option Json :=
  (container.get? "State").bind (·.get? field)

/-- What the output of `docker inspect` says of a container. -/
def containerStatus (container : Json) : DockerContainerStatus :=
  let running := ((dockerStateField container "Running").bind Json.asBool).getD false
  let exitCode := (dockerStateField container "ExitCode").bind Json.asI64
  let errorMsg := ((dockerStateField container "Error").bind Json.asStr).filter (· ≠ "")
  let message :=
    if running then "container running"
    else match errorMsg with
      | some error => "container exited, error: " ++ error
      | none => "container exited, exit code: " ++ (exitCode.map toString).getD "unknown"
  { running, message, exitCode }

def inspectedStatus (deps : External) : CommandOutcome → Except String DockerContainerStatus
  | .timedOut => .error "Docker inspect timed out"
  | .spawnFailed error => .error ("Docker inspect failed: " ++ error)
  | .exited false _ _ stderr =>
      if Text.contains stderr "No such object" then
        .ok { running := false, message := "container not found", exitCode := none }
      else .error ("Docker inspect failed: " ++ Text.trim stderr)
  | .exited true _ stdout _ =>
      match deps.jsonArrayFromStr stdout with
      | .error error => .error ("Docker inspect output parse failed: " ++ error)
      | .ok [] => .error "Docker inspect returned empty array"
      | .ok (container :: _) => .ok (containerStatus container)

def inspectDockerContainer (deps : External) (containerRef : String) :
    Async (Except String DockerContainerStatus) := do
  let outcome ← await (.dockerInspect containerRef)
  pure (inspectedStatus deps outcome)

/-- The name under which docker knows the container of a record. -/
def ManagedProcessRecord.containerRef (record : ManagedProcessRecord) : Option String :=
  record.containerId.or record.containerName

def ManagedProcessRecord.isDocker (record : ManagedProcessRecord) : Bool :=
  record.deployType = some "docker"

structure ProcessCheck where
  isRunning : Bool
  message : String

def dockerCheck : Except String DockerContainerStatus → ProcessCheck
  | .ok status => { isRunning := status.running, message := status.message }
  | .error error =>
      { isRunning := false, message := "Docker container check failed: " ++ error }

def checkDockerRecord (deps : External) (record : ManagedProcessRecord) : Async ProcessCheck :=
  match record.containerRef with
  | none => pure { isRunning := false, message := "missing container ID or name" }
  | some containerRef => do
      let status ← inspectDockerContainer deps containerRef
      pure (dockerCheck status)

def dockerStopped : CommandOutcome → Except String Unit
  | .timedOut => .error "Docker stop timed out"
  | .spawnFailed error => .error ("Docker stop failed: " ++ error)
  | .exited false _ _ stderr => .error ("Docker stop failed: " ++ Text.trim stderr)
  | .exited true .. => .ok ()

def stopDockerContainer (record : ManagedProcessRecord) : Async (Except String Unit) :=
  match record.containerRef with
  | none => pure (.error "missing container ID or name; cannot stop")
  | some containerRef => do
      let outcome ← await (.dockerStop containerRef)
      pure (dockerStopped outcome)

end LightAI.Agent
