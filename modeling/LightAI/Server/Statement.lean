import LightAI.Base.Program
import LightAI.Server.Rows

/-!
# The statements of the server

One constructor for each statement or transaction that a request handler executes: all the reads are
`select`, and each write names the row it writes. A statement is atomic and the server keeps no state
of its own between two statements, so a handler is a program over them.
-/

namespace LightAI.Server

/-- A foreign key, which may be `NULL`. -/
def references {κ ρ : Type} [DecidableEq κ] {key : ρ → κ} (t : Table κ ρ key) : Option κ → Bool
  | none => true
  | some k => (t.find? k).isSome

/-- The columns that a local instance's update may set. -/
structure LocalInstanceUpdate where
  name : String
  description : Option String
  paramsJson : Option String

/-- The columns that an external instance's update may set. -/
structure ExternalInstanceUpdate where
  name : String
  backend : String
  status : String
  baseUrl : Option String
  endpointUrl : Option String
  healthUrl : Option String
  runtimeVersion : Option String
  modelName : Option String
  description : Option String
  paramsJson : Option String

/-- The columns that an update of a runtime environment sets. -/
structure RuntimeUpdate where
  name : String
  backend : String
  deployType : String
  version : Option String
  binaryPath : Option String
  dockerImage : Option String
  workingDir : Option String
  logDir : Option String
  allowedModelDirsJson : Option String
  paramsJson : Option String
  enabled : Bool

/-- The outcome of a runtime check. -/
structure CheckedRuntimeEnvironment where
  checkStatus : String
  version : Option String
  message : String
  checkedAt : Int

/-- What a successful verification says of a file. -/
structure VerifiedModelFile where
  sizeBytes : Option Int
  pathType : Option String
  verifiedAt : Int

inductive Stmt : Type 1 where
  | select {β : Type} (query : Db → β)
  -- agent_tasks
  | insertAgentTask (task : NewAgentTask)
  | enqueueInstanceTask (task : NewAgentTask) (instanceId pendingStatus : String) (now : Int)
  | enqueueFileVerification (task : NewAgentTask) (fileId waitMessage : String) (now : Int)
  /-- The `UPDATE` of a poll, which names the row by the id of the row it has selected. -/
  | claimAgentTask (selected : AgentTask) (now leaseUntil : Int)
  | markTaskTimedOut (taskId : String) (now : Int)
  /-- The transaction of a result, for the task row it has selected. -/
  | recordResult (selected : AgentTask) (status : ResultStatus) (result : Json) (now : Int)
  -- model_files
  | setFileVerifying (fileId : String) (now : Int)
  | setFileVerifyTimeout (fileId : String) (now : Int)
  /-- The `UPDATE` of `model_file_rows` for a row it has selected. -/
  | expireModelFile (selected : ModelFile) (now : Int)
  | insertModelFile (file : ModelFile)
  | updateModelFile (fileId nodeId path : String) (verified : VerifiedModelFile) (now : Int)
  | deleteModelFile (fileId : String) (now : Int)
  -- model_file_trash
  | insertTrash (item : ModelFileTrash)
  | setTrashCleanupRunning (trashId : String) (now : Int)
  | setTrashCleanupPending (trashId taskId : String) (now : Int)
  | updateTrashFailure (trashId : String) (status : TrashStatus) (message : String) (now : Int)
  | deleteTrash (trashId : String)
  -- model_instances
  | insertModelInstance (row : ModelInstance)
  | updateInstanceCheck (instanceId status : String) (error : Option String) (now : Int)
  | updateLocalInstance (instanceId : String) (update : LocalInstanceUpdate) (now : Int)
  | updateExternalInstance (instanceId : String) (update : ExternalInstanceUpdate) (now : Int)
  | deleteModelInstance (instanceId : String)
  | setInstanceLogTail (instanceId logTail : String) (now : Int)
  -- runtime_environments
  | insertRuntime (row : RuntimeEnvironment)
  | updateRuntime (runtimeId : String) (update : RuntimeUpdate) (now : Int)
  | setRuntimeChecked (runtimeId : String) (checked : CheckedRuntimeEnvironment) (now : Int)
  | updateRuntimeCheck (runtimeId status message : String) (now : Int)
  | deleteRuntime (runtimeId : String)
  -- heartbeat
  | recordHeartbeat (request : HeartbeatRequest) (now : Int)

/-- What a statement returns. Of an `INSERT`, whether no constraint refused it; of an `UPDATE` or
`DELETE` whose number of rows the handler reads, whether there was a row. -/
def Stmt.Answer : Stmt → Type
  | @select β _ => β
  | insertAgentTask _ | enqueueInstanceTask .. | enqueueFileVerification .. | insertModelFile _
  | insertTrash _ | insertModelInstance _ | insertRuntime _ => Bool
  | updateModelFile .. | deleteModelFile .. | deleteTrash _ | deleteModelInstance _
  | updateRuntime .. => Bool
  | deleteRuntime _ | recordResult .. | recordHeartbeat .. => Except DomainError Bool
  | _ => Unit

/-! ### Rows that only some statements write -/

def ModelFile.replace (file : ModelFile) (nodeId path : String) (verified : VerifiedModelFile)
    (now : Int) : ModelFile :=
  { file with
    nodeId
    path
    status := "verified"
    sizeBytes := verified.sizeBytes
    lastVerifiedAt := some verified.verifiedAt
    pathType := verified.pathType
    lastError := none
    verifyTaskId := none
    updatedAt := now }

def ModelFile.delete (file : ModelFile) (now : Int) : ModelFile :=
  { file with deletedAt := some now, updatedAt := now }

def ModelInstance.updateLocal (row : ModelInstance) (update : LocalInstanceUpdate) (now : Int) :
    ModelInstance :=
  { row with
    name := update.name
    description := update.description
    paramsJson := update.paramsJson
    updatedAt := now }

def ModelInstance.updateExternal (row : ModelInstance) (update : ExternalInstanceUpdate)
    (now : Int) : ModelInstance :=
  { row with
    name := update.name
    backend := update.backend
    status := update.status
    baseUrl := update.baseUrl
    endpointUrl := update.endpointUrl
    healthUrl := update.healthUrl
    runtimeVersion := update.runtimeVersion
    modelName := update.modelName
    description := update.description
    paramsJson := update.paramsJson
    updatedAt := now }

def ModelInstance.setLogTail (row : ModelInstance) (logTail : String) (now : Int) : ModelInstance :=
  { row with logTail := some logTail, updatedAt := now }

def RuntimeEnvironment.update (row : RuntimeEnvironment) (update : RuntimeUpdate) (now : Int) :
    RuntimeEnvironment :=
  { row with
    name := update.name
    backend := update.backend
    deployType := update.deployType
    version := update.version
    baseUrl := none
    healthUrl := none
    endpointUrl := none
    binaryPath := update.binaryPath
    dockerImage := update.dockerImage
    workingDir := update.workingDir
    logDir := update.logDir
    allowedModelDirsJson := update.allowedModelDirsJson
    paramsJson := update.paramsJson
    enabled := update.enabled
    updatedAt := now }

def RuntimeEnvironment.setChecked (row : RuntimeEnvironment) (checked : CheckedRuntimeEnvironment)
    (now : Int) : RuntimeEnvironment :=
  { row with
    version := checked.version.or row.version
    lastCheckedAt := some checked.checkedAt
    checkStatus := some checked.checkStatus
    checkMessage := some checked.message
    updatedAt := now }

def RuntimeEnvironment.check (row : RuntimeEnvironment) (status message : String) (now : Int) :
    RuntimeEnvironment :=
  { row with
    lastCheckedAt := some now
    checkStatus := some status
    checkMessage := some message
    updatedAt := now }

/-! ### The transactions of results and heartbeats -/

/-- What a task result does besides the `UPDATE` of the task: the row that the payload names is
written, and a payload that must name one and does not undoes the transaction. -/
def applyTaskResult (db : Db) (task : AgentTask) (status : ResultStatus) (result : Json) (now : Int) :
    Except DomainError Db :=
  match task.kind with
  | .verifyModelFile =>
      match task.payloadJson.getStr "model_file_id" with
      | none => .ok db
      | some fileId =>
          .ok { db with
            modelFiles := db.modelFiles.update fileId (·.verified status result now) fun _ => rfl }
  | .cleanupModelFile =>
      match task.payloadJson.getStr "trash_id" with
      | none => .error (.badRequest "task payload is invalid")
      | some trashId =>
          .ok { db with
            modelFileTrash := db.modelFileTrash.update trashId (·.cleanedUp status result now)
              fun _ => by unfold ModelFileTrash.cleanedUp ModelFileTrash.failure; split <;> rfl }
  | .startModelInstance | .stopModelInstance | .checkModelInstance | .testModelInstance =>
      match task.payloadJson.getStr "instance_id" with
      | none => .error (.badRequest "task payload is invalid")
      | some instanceId =>
          .ok { db with
            modelInstances := db.modelInstances.update instanceId
              (·.applyResult task.kind status result now) fun _ => rfl }
  | _ => .ok db

abbrev Instances := Table String ModelInstance ModelInstance.id

/-- The first loop of `reconcile_managed_instances`. -/
def applyReports (nodeId : String) (now : Int) (reports : List ManagedInstanceReport)
    (instances : Instances) : Instances :=
  reports.foldl (fun instances report =>
    instances.updateWhere
      (fun row => row.id = report.instanceId && row.nodeId = some nodeId && row.deployType = "local")
      (·.applyReport report now) fun _ => rfl) instances

/-- The condition of the `SELECT` of `reconcile_managed_instances`. -/
def expectsReport (db : Db) (nodeId : String) (row : ModelInstance) : Bool :=
  row.nodeId = some nodeId && row.deployType = "local" && busyStatus row.status &&
    match row.runtimeEnvironmentId.bind db.runtimeEnvironments.find? with
    | none => true
    | some runtime => runtime.backend ≠ "ollama"

/-- The second loop of `reconcile_managed_instances`, over the ids that its `SELECT` returns. -/
def failUnreported (reportedIds : List String) (now : Int) (ids : List String)
    (instances : Instances) : Instances :=
  ids.foldl (fun instances id =>
    if id ∈ reportedIds then instances
    else instances.update id (·.unreported now) fun _ => rfl) instances

def reconcileManagedInstances (db : Db) (nodeId : String) (reports : List ManagedInstanceReport)
    (now : Int) : Db :=
  let instances := applyReports nodeId now reports db.modelInstances
  let ids := (instances.rows.filter (expectsReport db nodeId)).map (·.id)
  { db with
    modelInstances := failUnreported (reports.map (·.instanceId)) now ids instances }

/-! ### Execution -/

/-- An `INSERT` together with the rest of its transaction, which is undone when the row is refused. -/
def insertRow {κ ρ : Type} [DecidableEq κ] {key : ρ → κ} (db : Db) (allowed : Bool)
    (table : Table κ ρ key) (row : ρ) (commit : Table κ ρ key → Db) : Bool × Db :=
  if allowed then
    match table.insert? row with
    | none => (false, db)
    | some table' => (true, commit table')
  else (false, db)

def insertTask (db : Db) (task : NewAgentTask) (commit : Db → Db) : Bool × Db :=
  insertRow db (references db.nodes (some task.nodeId)) db.agentTasks task.row
    fun agentTasks => commit { db with agentTasks }

def Stmt.exec : (stmt : Stmt) → Db → stmt.Answer × Db
  | select query, db => (query db, db)
  | insertAgentTask task, db => insertTask db task id
  | enqueueInstanceTask task instanceId pendingStatus now, db =>
      insertTask db task fun db =>
        { db with
          modelInstances := db.modelInstances.update instanceId (·.pending pendingStatus now)
            fun _ => rfl }
  | enqueueFileVerification task fileId waitMessage now, db =>
      insertTask db task fun db =>
        { db with
          modelFiles := db.modelFiles.update fileId (·.verifyPending task.id waitMessage now)
            fun _ => rfl }
  | claimAgentTask selected now leaseUntil, db =>
      ((), { db with
        agentTasks := db.agentTasks.update selected.id (·.claim now leaseUntil) fun _ => rfl })
  | markTaskTimedOut taskId now, db =>
      ((), { db with
        agentTasks := db.agentTasks.updateWhere (fun task => task.id = taskId && task.status.isLive)
          (·.timeOut now) fun _ => rfl })
  | recordResult selected status result now, db =>
      match applyTaskResult
        { db with
          agentTasks := db.agentTasks.update selected.id (·.finish status result now) fun _ => rfl }
        selected status result now with
      | .error e => (.error e, db)
      | .ok db' => (.ok true, db')
  | setFileVerifying fileId now, db =>
      ((), { db with modelFiles := db.modelFiles.update fileId (·.verifying now) fun _ => rfl })
  | setFileVerifyTimeout fileId now, db =>
      ((), { db with modelFiles := db.modelFiles.update fileId (·.verifyTimeout now) fun _ => rfl })
  | expireModelFile selected now, db =>
      ((), { db with
        modelFiles := db.modelFiles.update selected.id (·.verifyTimeout now) fun _ => rfl })
  | insertModelFile file, db =>
      insertRow db
        (references db.models (some file.modelId) && references db.nodes (some file.nodeId))
        db.modelFiles file fun modelFiles => { db with modelFiles }
  | updateModelFile fileId nodeId path verified now, db =>
      ((db.modelFiles.find? fileId).isSome,
        { db with
          modelFiles := db.modelFiles.update fileId (·.replace nodeId path verified now)
            fun _ => rfl })
  | deleteModelFile fileId now, db =>
      ((db.modelFiles.find? fileId).isSome,
        { db with modelFiles := db.modelFiles.update fileId (·.delete now) fun _ => rfl })
  | insertTrash item, db =>
      insertRow db
        (references db.modelFiles item.modelFileId && references db.models item.modelId
          && references db.nodes item.nodeId)
        db.modelFileTrash item fun modelFileTrash => { db with modelFileTrash }
  | setTrashCleanupRunning trashId now, db =>
      ((), { db with
        modelFileTrash := db.modelFileTrash.update trashId (·.cleanupRunning now) fun _ => rfl })
  | setTrashCleanupPending trashId taskId now, db =>
      ((), { db with
        modelFileTrash := db.modelFileTrash.update trashId (·.cleanupPending taskId now)
          fun _ => rfl })
  | updateTrashFailure trashId status message now, db =>
      ((), { db with
        modelFileTrash := db.modelFileTrash.update trashId (·.failure status message now)
          fun _ => rfl })
  | deleteTrash trashId, db =>
      ((db.modelFileTrash.find? trashId).isSome,
        { db with modelFileTrash := db.modelFileTrash.delete trashId })
  | insertModelInstance row, db =>
      insertRow db
        (references db.models row.modelId && references db.modelFiles row.modelFileId
          && references db.nodes row.nodeId
          && references db.runtimeEnvironments row.runtimeEnvironmentId)
        db.modelInstances row fun modelInstances => { db with modelInstances }
  | updateInstanceCheck instanceId status error now, db =>
      ((), { db with
        modelInstances := db.modelInstances.update instanceId (·.check status error now)
          fun _ => rfl })
  | updateLocalInstance instanceId update now, db =>
      ((), { db with
        modelInstances := db.modelInstances.update instanceId (·.updateLocal update now)
          fun _ => rfl })
  | updateExternalInstance instanceId update now, db =>
      ((), { db with
        modelInstances := db.modelInstances.update instanceId (·.updateExternal update now)
          fun _ => rfl })
  | deleteModelInstance instanceId, db =>
      ((db.modelInstances.find? instanceId).isSome,
        { db with modelInstances := db.modelInstances.delete instanceId })
  | setInstanceLogTail instanceId logTail now, db =>
      ((), { db with
        modelInstances := db.modelInstances.update instanceId (·.setLogTail logTail now)
          fun _ => rfl })
  | insertRuntime row, db =>
      insertRow db (references db.nodes row.nodeId) db.runtimeEnvironments row
        fun runtimeEnvironments => { db with runtimeEnvironments }
  | updateRuntime runtimeId update now, db =>
      ((db.runtimeEnvironments.find? runtimeId).isSome,
        { db with
          runtimeEnvironments := db.runtimeEnvironments.update runtimeId (·.update update now)
            fun _ => rfl })
  | setRuntimeChecked runtimeId checked now, db =>
      ((), { db with
        runtimeEnvironments := db.runtimeEnvironments.update runtimeId (·.setChecked checked now)
          fun _ => rfl })
  | updateRuntimeCheck runtimeId status message now, db =>
      ((), { db with
        runtimeEnvironments := db.runtimeEnvironments.update runtimeId (·.check status message now)
          fun _ => rfl })
  | deleteRuntime runtimeId, db =>
      if db.modelInstances.rows.any (·.runtimeEnvironmentId = some runtimeId) then
        (.error (.internal "FOREIGN KEY constraint failed"), db)
      else
        (.ok (db.runtimeEnvironments.find? runtimeId).isSome,
          { db with runtimeEnvironments := db.runtimeEnvironments.delete runtimeId })
  | recordHeartbeat request now, db =>
      match db.nodes.find? request.nodeId with
      | none => (.error (.internal "FOREIGN KEY constraint failed"), db)
      | some _ =>
          (.ok true, reconcileManagedInstances
            { db with
              nodes := db.nodes.update request.nodeId
                (fun node => { node with lastHeartbeatAt := some request.sampledAt }) fun _ => rfl }
            request.nodeId request.managedInstances now)

end LightAI.Server
