import LightAI.Base.Json
import LightAI.Base.Table
import LightAI.Base.Text
import LightAI.Server.AgentConfig

/-!
# The server's tables

One structure for each table of the migrations, with the columns that the modelled statements read or
write. A column of JSON that only the server writes (a task's payload) is the JSON value itself; a
column that holds text of a user or of an agent is text.
-/

namespace LightAI.Server

inductive DomainError where
  | badRequest (message : String)
  | notFound (message : String)
  | conflict (message : String)
  | internal (message : String)
  deriving DecidableEq, Repr

/-- The parts of a parsed URL that the server reads. -/
structure Url where
  scheme : String
  hostStr : Option String
  path : String
  query : Option String
  deriving DecidableEq

/-- The third-party functions that the server calls. -/
structure External where
  /-- `serde_json::from_str::<Value>` -/
  jsonFromStr : String → Option Json
  /-- `serde_json::to_string` -/
  jsonToString : Json → String
  /-- `reqwest::Url::parse` -/
  urlParse : String → Option Url

inductive TaskKind where
  | verifyModelFile
  | cleanupModelFile
  | readAgentLog
  | checkRuntimeEnvironment
  | startModelInstance
  | stopModelInstance
  | checkModelInstance
  | testModelInstance
  | readInstanceLog
  | listOllamaModels
  | startGateway
  | stopGateway
  | restartGateway
  | checkGateway
  | readGatewayLog
  deriving DecidableEq, Repr

/-- The four kinds whose results and timeouts write a row of `model_instances`. -/
def TaskKind.isInstanceTask : TaskKind → Bool
  | startModelInstance | stopModelInstance | checkModelInstance | testModelInstance => true
  | _ => false

inductive TaskStatus where
  | queued
  | running
  | succeeded
  | failed
  | timedOut
  deriving DecidableEq, Repr

/-- `queued` and `running`: the statuses in the guard of `mark_task_timed_out`. -/
def TaskStatus.isLive : TaskStatus → Bool
  | queued | running => true
  | _ => false

structure AgentTask where
  id : String
  nodeId : String
  kind : TaskKind
  status : TaskStatus
  payloadJson : Json
  resultJson : Option Json := none
  errorMessage : Option String := none
  leaseUntil : Option Int := none
  attemptCount : Int := 0
  createdAt : Int
  startedAt : Option Int := none
  completedAt : Option Int := none
  updatedAt : Int

structure ModelInstance where
  id : String
  modelId : Option String := none
  modelFileId : Option String := none
  nodeId : Option String := none
  runtimeEnvironmentId : Option String := none
  name : String
  backend : String
  deployType : String
  status : String
  baseUrl : Option String := none
  endpointUrl : Option String := none
  healthUrl : Option String := none
  runtimeVersion : Option String := none
  modelName : Option String := none
  description : Option String := none
  paramsJson : Option String := none
  processId : Option Int := none
  processRef : Option String := none
  logTail : Option String := none
  command : Option String := none
  lastCheckedAt : Option Int := none
  lastError : Option String := none
  createdAt : Int
  updatedAt : Int
  deriving DecidableEq

structure ModelFile where
  id : String
  modelId : String
  nodeId : String
  path : String
  pathType : Option String := none
  status : String
  sizeBytes : Option Int := none
  lastVerifiedAt : Option Int := none
  lastError : Option String := none
  verifyTaskId : Option String := none
  deletedAt : Option Int := none
  createdAt : Int
  updatedAt : Int
  deriving DecidableEq

inductive TrashStatus where
  | pending
  | cleanupPending
  | cleanupRunning
  | cleaned
  | cleanupFailed
  | cleanupTimeout
  deriving DecidableEq, Repr

structure ModelFileTrash where
  id : String
  modelFileId : Option String := none
  modelId : Option String := none
  nodeId : Option String := none
  path : String
  reason : Option String := none
  status : TrashStatus
  fileDeletedAt : Option Int := none
  cleanupTaskId : Option String := none
  lastError : Option String := none
  note : Option String := none
  createdAt : Int
  updatedAt : Int
  deriving DecidableEq

structure RuntimeEnvironment where
  id : String
  nodeId : Option String := none
  name : String
  backend : String
  deployType : String
  version : Option String := none
  baseUrl : Option String := none
  healthUrl : Option String := none
  endpointUrl : Option String := none
  binaryPath : Option String := none
  dockerImage : Option String := none
  workingDir : Option String := none
  logDir : Option String := none
  allowedModelDirsJson : Option String := none
  paramsJson : Option String := none
  enabled : Bool := true
  lastCheckedAt : Option Int := none
  checkStatus : Option String := none
  checkMessage : Option String := none
  createdAt : Int
  updatedAt : Int
  deriving DecidableEq

structure Model where
  id : String
  name : String
  deletedAt : Option Int := none

structure Node where
  id : String
  name : String
  lastHeartbeatAt : Option Int := none

/-- The database, and the wall clock that `now_unix_secs` reads. -/
structure Db where
  clock : Int
  nodes : Table String Node Node.id := .empty
  models : Table String Model Model.id := .empty
  runtimeEnvironments : Table String RuntimeEnvironment RuntimeEnvironment.id := .empty
  modelFiles : Table String ModelFile ModelFile.id := .empty
  modelInstances : Table String ModelInstance ModelInstance.id := .empty
  modelFileTrash : Table String ModelFileTrash ModelFileTrash.id := .empty
  agentTasks : Table String AgentTask AgentTask.id := .empty
  agentConfigPolicies :
    Table (String × String) AgentConfigPolicyRow AgentConfigPolicyRow.key := .empty

end LightAI.Server
