import LightAI.Server.Schema

/-!
# What the server's statements write into a row

Each definition is the `SET` clause of one statement. None of them touches a key.
-/

namespace LightAI.Server

structure AgentTaskResultRequest where
  nodeId : String
  status : String
  result : Json

structure ManagedInstanceReport where
  instanceId : String
  status : String
  message : String
  processId : Option Int := none
  processRef : Option String := none
  baseUrl : Option String := none
  endpointUrl : Option String := none
  command : Option String := none
  logPath : Option String := none
  deriving DecidableEq

structure HeartbeatRequest where
  nodeId : String
  sampledAt : Int
  managedInstances : List ManagedInstanceReport := []
  deriving DecidableEq

/-! ### `agent_tasks` -/

/-- What the `INSERT` of a task sets. The other columns are fixed by the statement. -/
structure NewAgentTask where
  id : String
  nodeId : String
  kind : TaskKind
  payloadJson : Json
  now : Int

def NewAgentTask.row (task : NewAgentTask) : AgentTask :=
  { id := task.id
    nodeId := task.nodeId
    kind := task.kind
    status := .queued
    payloadJson := task.payloadJson
    attemptCount := 0
    createdAt := task.now
    updatedAt := task.now }

/-- The statuses that a result may report. -/
inductive ResultStatus where
  | succeeded
  | failed
  deriving DecidableEq, Repr

def ResultStatus.toTaskStatus : ResultStatus → TaskStatus
  | succeeded => .succeeded
  | failed => .failed

def agentTaskLeaseSecs : Int := 30

def agentTaskQueueTimeoutSecs : Int := 300

/-- The `UPDATE` of a poll. -/
def AgentTask.claim (task : AgentTask) (now leaseUntil : Int) : AgentTask :=
  { task with
    status := .running
    startedAt := some (task.startedAt.getD now)
    leaseUntil := some leaseUntil
    attemptCount := task.attemptCount + 1
    updatedAt := now }

def AgentTask.timeOut (task : AgentTask) (now : Int) : AgentTask :=
  { task with
    status := .timedOut
    errorMessage := some "task execution timed out"
    updatedAt := now }

/-- The `UPDATE` of a result. -/
def AgentTask.finish (task : AgentTask) (status : ResultStatus) (result : Json) (now : Int) :
    AgentTask :=
  { task with
    status := status.toTaskStatus
    resultJson := some result
    errorMessage := if status = .failed then result.getStr "message" else none
    completedAt := some now
    updatedAt := now }

/-- The condition of the `SELECT` of `mark_timed_out_tasks`. -/
def AgentTask.expired (task : AgentTask) (now : Int) : Bool :=
  (task.status = .running && task.leaseUntil.any (· < now))
    || (task.status = .queued && task.createdAt < now - agentTaskQueueTimeoutSecs)

/-- `["succeeded", "failed"].contains(&request.status)`, and which of the two it is. -/
def resultStatus : String → Option ResultStatus
  | "succeeded" => some .succeeded
  | "failed" => some .failed
  | _ => none

/-! ### `model_files` -/

def ModelFile.verifying (file : ModelFile) (now : Int) : ModelFile :=
  { file with status := "verifying", updatedAt := now }

def ModelFile.verifyTimeout (file : ModelFile) (now : Int) : ModelFile :=
  { file with
    status := "verify_timeout"
    lastError := some "verification timed out"
    updatedAt := now }

def ModelFile.verifyPending (file : ModelFile) (taskId message : String) (now : Int) : ModelFile :=
  { file with
    status := "verify_pending"
    verifyTaskId := some taskId
    lastError := some message
    updatedAt := now }

/-- The status of a file that a verification result sets. -/
def fileStatus (status : ResultStatus) (result : Json) : String :=
  (result.getStr "file_status").getD (if status = .succeeded then "verified" else "failed")

/-- The write of a verification result. -/
def ModelFile.verified (file : ModelFile) (status : ResultStatus) (result : Json) (now : Int) :
    ModelFile :=
  { file with
    status := fileStatus status result
    sizeBytes := result.getI64 "size_bytes"
    pathType := some ((result.getStr "path_type").getD "file")
    lastVerifiedAt := some now
    lastError :=
      if fileStatus status result = "verified" then none
      else some ((result.getStr "message").getD "File verification failed")
    updatedAt := now }

/-! ### `model_file_trash` -/

def ModelFileTrash.cleanupRunning (item : ModelFileTrash) (now : Int) : ModelFileTrash :=
  { item with status := .cleanupRunning, updatedAt := now }

def ModelFileTrash.cleanupPending (item : ModelFileTrash) (taskId : String) (now : Int) :
    ModelFileTrash :=
  { item with
    status := .cleanupPending
    cleanupTaskId := some taskId
    lastError := none
    updatedAt := now }

/-- The write of `update_trash_failure`. -/
def ModelFileTrash.failure (item : ModelFileTrash) (status : TrashStatus) (message : String)
    (now : Int) : ModelFileTrash :=
  { item with status, lastError := some message, updatedAt := now }

/-- The write of a cleanup result. -/
def ModelFileTrash.cleanedUp (item : ModelFileTrash) (status : ResultStatus) (result : Json)
    (now : Int) : ModelFileTrash :=
  if status = .succeeded then
    { item with status := .cleaned, fileDeletedAt := some now, lastError := none, updatedAt := now }
  else
    item.failure .cleanupFailed ((result.getStr "message").getD "File cleanup failed") now

/-! ### `model_instances` -/

/-- The write of the transaction that enqueues a task for a local instance. -/
def ModelInstance.pending (row : ModelInstance) (status : String) (now : Int) : ModelInstance :=
  { row with status, lastError := none, updatedAt := now }

/-- The write of `update_instance_check`. -/
def ModelInstance.check (row : ModelInstance) (status : String) (error : Option String)
    (now : Int) : ModelInstance :=
  { row with status, lastCheckedAt := some now, lastError := error, updatedAt := now }

/-- The status of an instance that the result of an instance task sets. -/
def nextStatus (kind : TaskKind) (status : ResultStatus) (result : Json) : String :=
  (result.getStr "instance_status").getD
    (if status = .succeeded then
      if kind = .stopModelInstance then "stopped" else "running"
    else "failed")

def resultLastError (kind : TaskKind) (status : ResultStatus) (result : Json) : Option String :=
  if status = .succeeded then
    match kind with
    | .stopModelInstance | .startModelInstance | .checkModelInstance => result.getStr "message"
    | .testModelInstance =>
        let message := (result.getStr "message").getD "Test succeeded"
        let summary := (result.getStr "response_summary").getD ""
        some (if Text.isBlank summary then message else message ++ "：" ++ summary)
    | _ => none
  else some ((result.getStr "message").getD "Instance task execution failed")

/-- The write of the result of an instance task. -/
def ModelInstance.applyResult (row : ModelInstance) (kind : TaskKind) (status : ResultStatus)
    (result : Json) (now : Int) : ModelInstance :=
  { row with
    status := nextStatus kind status result
    baseUrl := (result.getStr "base_url").or row.baseUrl
    endpointUrl := (result.getStr "endpoint_url").or row.endpointUrl
    processId :=
      if kind = .stopModelInstance then none else (result.getI64 "process_id").or row.processId
    processRef :=
      if kind = .stopModelInstance then none else (result.getStr "process_ref").or row.processRef
    logTail := ((result.getStr "log_tail").map (Text.takeChars 8192)).or row.logTail
    command := ((result.getStr "command").map (Text.takeChars 2048)).or row.command
    lastCheckedAt := some now
    lastError := resultLastError kind status result
    updatedAt := now }

/-- The status that a report of the agent is mapped to. -/
def reportStatus : String → String
  | "running" => "running"
  | "stopped" => "stopped"
  | "failed" => "failed"
  | _ => "failed"

/-- The write of one report of a heartbeat. -/
def ModelInstance.applyReport (row : ModelInstance) (report : ManagedInstanceReport) (now : Int) :
    ModelInstance :=
  let status := reportStatus report.status
  { row with
    status
    processId := if status = "running" then report.processId else none
    processRef := if status = "running" then report.processRef else none
    baseUrl := report.baseUrl.or row.baseUrl
    endpointUrl := report.endpointUrl.or row.endpointUrl
    command := report.command.or row.command
    logTail := (report.logPath.map ("log file: " ++ ·)).or row.logTail
    lastCheckedAt := some now
    lastError := if status = "running" then none else some report.message
    updatedAt := now }

/-- The write on an instance that a heartbeat does not report. -/
def ModelInstance.unreported (row : ModelInstance) (now : Int) : ModelInstance :=
  { row with
    status := "failed"
    processId := none
    processRef := none
    lastCheckedAt := some now
    lastError := some ("Agent did not report managed process status; " ++
      "process may have exited or been terminated externally")
    updatedAt := now }

/-- The statuses under which an instance must not be changed. -/
def busyStatus (status : String) : Bool :=
  status = "running" || status = "starting" || status = "stopping"

end LightAI.Server
