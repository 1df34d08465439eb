import Mathlib
import LightAI.Server.InstanceView

/-!
# Agent tasks

The requests of an agent (polling for a task, reporting its result), the sweep over expired tasks,
and the loop in which a user's request waits for its task.
-/

namespace LightAI.Server

structure AgentTaskView where
  id : String
  nodeId : String
  kind : TaskKind
  status : TaskStatus
  payload : Json
  leaseUntil : Option Int
  attemptCount : Int
  createdAt : Int
  updatedAt : Int

structure AgentTaskPollResponse where
  task : Option AgentTaskView
  agentConfig : AgentConfig

def readPolicy (scope nodeId : String) : Handler (Option AgentConfigPolicy) :=
  query fun db => (db.agentConfigPolicies.find? (scope, nodeId)).map (·.policy)

def policyVersion (scope nodeId : String) : Handler (Option Int) :=
  query fun db => (db.agentConfigPolicies.find? (scope, nodeId)).map (·.version)

def effectiveAgentConfig (nodeId : String) : Handler AgentConfig := do
  let now ← nowUnixSecs
  let global ← readPolicy "global" ""
  let node ← readPolicy "node" nodeId
  let globalVersion ← policyVersion "global" ""
  let nodeVersion ← policyVersion "node" nodeId
  pure (applyPolicy (defaultAgentConfig now) (global.getD {}) (node.getD {})
    (max (max (globalVersion.getD agentConfigVersion) (nodeVersion.getD 0)) agentConfigVersion) now)

/-! ### Expired tasks -/

def markTaskTimedOut (taskId : String) : Handler Unit := do
  let now ← nowUnixSecs
  execute (.markTaskTimedOut taskId now)

/-- What the timeout of a task does to the row that its payload names. -/
def applyTimeout (task : AgentTask) (now : Int) : Handler Unit :=
  match task.kind with
  | .verifyModelFile =>
      match task.payloadJson.getStr "model_file_id" with
      | none => pure ()
      | some fileId => execute (.setFileVerifyTimeout fileId now)
  | .cleanupModelFile =>
      match task.payloadJson.getStr "trash_id" with
      | none => pure ()
      | some trashId => updateTrashFailure trashId .cleanupTimeout "file cleanup timed out"
  | .startModelInstance | .stopModelInstance | .checkModelInstance | .testModelInstance =>
      match task.payloadJson.getStr "instance_id" with
      | none => pure ()
      | some instanceId => do
          let _ ← updateInstanceCheck instanceId "failed" (some "Local instance task timed out")
          pure ()
  | _ => pure ()

/-- The loop of `mark_timed_out_tasks` over the rows that it has selected. -/
def timeOutTasks (now : Int) : List AgentTask → Handler Unit
  | [] => pure ()
  | task :: tasks => do
      markTaskTimedOut task.id
      applyTimeout task now
      timeOutTasks now tasks

def markTimedOutTasks : Handler Unit := do
  let now ← nowUnixSecs
  let rows ← query fun db => db.agentTasks.rows.filter (·.expired now)
  timeOutTasks now rows

/-! ### Polling -/

/-- Timestamps are compared as integers. -/
scoped instance (priority := high) timestampOrder : Preorder Int := Int.instLinearOrder.toPreorder

def nextQueuedAgentTask (nodeId : String) : Handler (Option AgentTask) :=
  query fun db =>
    (db.agentTasks.rows.filter fun task => task.nodeId = nodeId && task.status = .queued).argmin
      (·.createdAt)

/-- The loop of a long poll, which ends with a queued row or with the configuration that is sent
instead. `waits` is what ends each wait, `true` for a notification; after them the deadline has
passed. -/
def pollLoop (nodeId : String) (currentConfigVersion : Option Int) :
    List Bool → Handler (AgentTask ⊕ AgentConfig)
  | [] => do
      markTimedOutTasks
      match ← nextQueuedAgentTask nodeId with
      | some row => pure (.inl row)
      | none => do
          let config ← effectiveAgentConfig nodeId
          pure (.inr config)
  | notified :: waits => do
      markTimedOutTasks
      match ← nextQueuedAgentTask nodeId with
      | some row => pure (.inl row)
      | none =>
          if notified then do
            let effectiveConfig ← effectiveAgentConfig nodeId
            let next ← nextQueuedAgentTask nodeId
            if next.isNone && currentConfigVersion.any (· ≠ effectiveConfig.configVersion) then
              pure (.inr effectiveConfig)
            else pollLoop nodeId currentConfigVersion waits
          else pollLoop nodeId currentConfigVersion waits

/-- The row that the payload of a dispatched task names is marked as being worked on. -/
def markDispatched (task : AgentTask) (now : Int) : Handler Unit :=
  match task.kind with
  | .verifyModelFile =>
      match task.payloadJson.getStr "model_file_id" with
      | none => pure ()
      | some fileId => execute (.setFileVerifying fileId now)
  | .cleanupModelFile =>
      match task.payloadJson.getStr "trash_id" with
      | none => pure ()
      | some trashId => execute (.setTrashCleanupRunning trashId now)
  | _ => pure ()

def agentTaskFromRow (task : AgentTask) : AgentTaskView :=
  { id := task.id
    nodeId := task.nodeId
    kind := task.kind
    status := task.status
    payload := task.payloadJson
    leaseUntil := task.leaseUntil
    attemptCount := task.attemptCount
    createdAt := task.createdAt
    updatedAt := task.updatedAt }

/-- The error of `fetch_one` on no row. -/
def rowNotFound : DomainError :=
  .internal "no rows returned by a query that expected to return at least one row"

/-- What a poll does with the queued row that it has selected. -/
def dispatchAgentTask (nodeId : String) (row : AgentTask) : Handler AgentTaskPollResponse := do
  let now ← nowUnixSecs
  execute (.claimAgentTask row now (now + agentTaskLeaseSecs))
  markDispatched row now
  let stored ← query fun db => db.agentTasks.find? row.id
  let stored ← required rowNotFound stored
  let agentConfig ← effectiveAgentConfig nodeId
  pure { task := some (agentTaskFromRow stored), agentConfig }

def pollAgentTask (nodeId : String) (currentConfigVersion : Option Int) (waits : List Bool) :
    Handler AgentTaskPollResponse := do
  match ← pollLoop nodeId currentConfigVersion waits with
  | .inr agentConfig => pure { task := none, agentConfig }
  | .inl row => dispatchAgentTask nodeId row

/-! ### Results -/

def recordAgentTaskResult (taskId : String) (request : AgentTaskResultRequest) : Handler Unit := do
  let task ← query fun db =>
    (db.agentTasks.find? taskId).filter fun task => task.nodeId = request.nodeId
  let task ← required (.notFound "agent task not found") task
  let status ← required (.badRequest "status is invalid") (resultStatus request.status)
  let now ← nowUnixSecs
  let outcome ← execute (.recordResult task status request.result now)
  let _ ← checked outcome
  pure ()

/-! ### Waiting for a task -/

/-- The loop of a request that waits for its task. `ended` is what the request does once the task has
one of the statuses it looks for, `rounds` how many times it sleeps before its deadline. -/
def waitForTask {α : Type} (taskId : String) (ended : AgentTask → Option (Handler α))
    (deadline : Handler α) : Nat → Handler α
  | 0 => do
      let row ← query fun db => db.agentTasks.find? taskId
      let task ← required rowNotFound row
      match ended task with
      | some outcome => outcome
      | none => deadline
  | rounds + 1 => do
      let row ← query fun db => db.agentTasks.find? taskId
      let task ← required rowNotFound row
      match ended task with
      | some outcome => outcome
      | none => waitForTask taskId ended deadline rounds

/-- The message of a failed task: the agent's, else the one on the row, else `default`. -/
def failureMessage (task : AgentTask) (default : String) : String :=
  ((task.resultJson.bind (·.getStr "message")).or task.errorMessage).getD default

end LightAI.Server
