import LightAI.Base.Interleaving
import LightAI.Server.Effects
import LightAI.Server.Logs
import LightAI.Server.ModelTrash

/-!
# The server under concurrent requests

Every request is a thread whose statements interleave with those of the others, and a connection may
be dropped between two statements. The ids of new rows and the turns of a waiting request come with the
request: a theorem over all requests is one over all of them.

What the environment does is the passing of time, in either direction, and whatever other requests do
to nodes, models and configuration policies.
-/

namespace LightAI.Server

open Interleaving

def recordHeartbeat (request : HeartbeatRequest) : Handler Unit := do
  let now ← nowUnixSecs
  let outcome ← execute (.recordHeartbeat request now)
  let _ ← checked outcome
  pure ()

inductive Request where
  -- from an agent
  | pollAgentTask (nodeId : String) (currentConfigVersion : Option Int) (waits : List Bool)
  | recordAgentTaskResult (taskId : String) (request : AgentTaskResultRequest)
  | recordHeartbeat (request : HeartbeatRequest)
  -- model instances
  | createModelInstance (request : ModelInstanceCreateRequest) (id : String)
  | updateModelInstance (id : String) (request : ModelInstanceUpdateRequest)
  | deleteModelInstance (id : String)
  | startModelInstance (id taskId : String) (rounds : Nat)
  | stopModelInstance (id taskId : String) (rounds : Nat)
  | checkModelInstance (id taskId : String) (http : HttpOutcome) (rounds : Nat)
  | testModelInstance (id taskId : String) (http : HttpOutcome) (rounds : Nat)
  | refreshInstanceLogs (id taskId : String) (rounds : Nat)
  -- runtime environments
  | createRuntimeEnvironment (nodeId : String) (request : RuntimeEnvironmentRequest)
      (id taskId : String) (rounds : Nat)
  | updateRuntimeEnvironment (id : String) (request : RuntimeEnvironmentRequest)
  | checkRuntimeEnvironment (id taskId : String) (rounds : Nat)
  | deleteRuntimeEnvironment (id : String)
  | ollamaModelList (nodeId runtimeEnvId taskId : String) (rounds : Nat)
  -- model files and trash
  | listModelFiles (modelId : String)
  | modelFileSummary (modelId : String)
  | createModelFile (modelId : String) (request : ModelFileRequest) (id taskId : String)
      (rounds : Nat)
  | updateModelFile (id : String) (request : ModelFileRequest) (taskId : String) (rounds : Nat)
  | queueModelFileVerification (id taskId : String)
  | deleteModelFile (id trashId : String)
  | createModelFileTrash (modelFileId : String) (request : ModelFileTrashRequest) (id : String)
  | cleanupModelFileTrash (id taskId : String) (rounds : Nat)
  | deleteModelFileTrash (id : String)
  -- logs and the gateway
  | readAgentLog (nodeId : String) (maxBytes : Nat) (taskId : String) (rounds : Nat)
  | runGatewayTask (nodeId : String) (kind : TaskKind) (request : GatewayTaskRequest)
      (taskId : String) (rounds : Nat)

/-- What a request returns. Only the answer to a poll is looked at. -/
inductive Response where
  | poll (response : AgentTaskPollResponse)
  | other

/-- A request whose answer is not looked at. -/
def answered {α : Type} (h : Handler α) : Handler Response := do
  let _ ← h
  pure .other

def Request.handler (deps : External) : Request → Handler Response
  | pollAgentTask nodeId currentConfigVersion waits => do
      let response ← Server.pollAgentTask nodeId currentConfigVersion waits
      pure (.poll response)
  | recordAgentTaskResult taskId request => answered (Server.recordAgentTaskResult taskId request)
  | recordHeartbeat request => answered (Server.recordHeartbeat request)
  | createModelInstance request id => answered (Server.createModelInstance deps request id)
  | updateModelInstance id request => answered (Server.updateModelInstance deps id request)
  | deleteModelInstance id => answered (Server.deleteModelInstance id)
  | startModelInstance id taskId rounds =>
      answered (Server.startModelInstance deps id taskId rounds)
  | stopModelInstance id taskId rounds => answered (Server.stopModelInstance deps id taskId rounds)
  | checkModelInstance id taskId http rounds =>
      answered (Server.checkModelInstance deps id taskId http rounds)
  | testModelInstance id taskId http rounds =>
      answered (Server.testModelInstance deps id taskId http rounds)
  | refreshInstanceLogs id taskId rounds => answered (Server.refreshInstanceLogs id taskId rounds)
  | createRuntimeEnvironment nodeId request id taskId rounds =>
      answered (Server.createRuntimeEnvironment deps nodeId request id taskId rounds)
  | updateRuntimeEnvironment id request => answered (Server.updateRuntimeEnvironment deps id request)
  | checkRuntimeEnvironment id taskId rounds =>
      answered (Server.checkRuntimeEnvironment id taskId rounds)
  | deleteRuntimeEnvironment id => answered (Server.deleteRuntimeEnvironment id)
  | ollamaModelList nodeId runtimeEnvId taskId rounds =>
      answered (Server.ollamaModelList deps nodeId runtimeEnvId taskId rounds)
  | listModelFiles modelId => answered (Server.listModelFiles modelId)
  | modelFileSummary modelId => answered (Server.modelFileSummary modelId)
  | createModelFile modelId request id taskId rounds =>
      answered (Server.createModelFile modelId request id taskId rounds)
  | updateModelFile id request taskId rounds =>
      answered (Server.updateModelFile id request taskId rounds)
  | queueModelFileVerification id taskId => answered (Server.queueModelFileVerification id taskId)
  | deleteModelFile id trashId => answered (Server.deleteModelFile id trashId)
  | createModelFileTrash modelFileId request id =>
      answered (Server.createModelFileTrash modelFileId request id)
  | cleanupModelFileTrash id taskId rounds =>
      answered (Server.cleanupModelFileTrash id taskId rounds)
  | deleteModelFileTrash id => answered (Server.deleteModelFileTrash id)
  | readAgentLog nodeId maxBytes taskId rounds =>
      answered (Server.readAgentLog nodeId maxBytes taskId rounds)
  | runGatewayTask nodeId kind request taskId rounds =>
      answered (Server.runGatewayTask deps nodeId kind request taskId rounds)

inductive Environment where
  | tick (now : Int)
  | nodes (table : Table String Node Node.id)
  | models (table : Table String Model Model.id)
  | policies (table : Table (String × String) AgentConfigPolicyRow AgentConfigPolicyRow.key)

def Environment.act : Environment → Db → Db
  | tick now, db => { db with clock := now }
  | nodes table, db => { db with nodes := table }
  | models table, db => { db with models := table }
  | policies table, db => { db with agentConfigPolicies := table }

@[simp]
theorem act_agentTasks (action : Environment) (db : Db) :
    (action.act db).agentTasks = db.agentTasks := by
  cases action <;> rfl

/-- The third-party functions as far as the runs on fixed inputs need them: no text is parsed, and the
only value that is printed is the empty object. -/
def noExternal : External where
  jsonFromStr _ := none
  jsonToString _ := "\x7b\x7d"
  urlParse _ := none

/-- A node that was seen last at the time 1000. -/
def oneNode : Table String Node Node.id :=
  ⟨[{ id := "n", name := "node", lastHeartbeatAt := some 1000 }], by decide⟩

/-- The node with a checked runtime environment and a verified model file. -/
def readyDb : Db :=
  { clock := 1000
    nodes := oneNode
    models := ⟨[{ id := "m", name := "model" }], by decide⟩
    runtimeEnvironments :=
      ⟨[{ id := "r", nodeId := some "n", name := "server", backend := "vllm"
          deployType := "binary", checkStatus := some "available", createdAt := 0
          updatedAt := 0 }], by decide⟩
    modelFiles :=
      ⟨[{ id := "f", modelId := "m", nodeId := "n", path := "/models/chat", status := "verified"
          createdAt := 0, updatedAt := 0 }], by decide⟩ }

abbrev Outcome := Except DomainError Response

def server (deps : External) : System Request Environment Stmt Stmt.Answer Db Outcome where
  handle request := (request.handler deps).run
  exec := Stmt.exec
  act := Environment.act

abbrev ServerConfig := Config Request Stmt Stmt.Answer Db Outcome

abbrev ServerThread := Thread Request Stmt Stmt.Answer Outcome

abbrev ServerEvent := Event Request Environment

end LightAI.Server
