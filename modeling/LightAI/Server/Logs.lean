import LightAI.Server.Instances

/-!
# Requests that only read from the agent

Agent logs, instance logs, Ollama models and the gateway. None of them looks for a task that has timed
out, and their deadline changes nothing but the task.
-/

namespace LightAI.Server

/-- The end of a task of a request that hands its result on. -/
def readEnded {α : Type} (succeeded : Json → Handler α) (failed : String) (task : AgentTask) :
    Option (Handler α) :=
  match task.status with
  | .succeeded => some (succeeded (task.resultJson.getD .null))
  | .failed => some (throw (.conflict (task.errorMessage.getD failed)))
  | _ => none

/-- Enqueues a task and waits for it. At the deadline the task is marked as timed out. -/
def runReadTask {α : Type} (taskId nodeId : String) (kind : TaskKind) (payload : Json)
    (ended : AgentTask → Option (Handler α)) (timedOut : DomainError) (rounds : Nat) :
    Handler α := do
  let now ← nowUnixSecs
  inserted (← execute (.insertAgentTask
    { id := taskId, nodeId, kind, payloadJson := payload, now }))
  waitForTask taskId ended
    (do
      markTaskTimedOut taskId
      throw timedOut)
    rounds

def readAgentLog (nodeId : String) (maxBytes : Nat) (taskId : String) (rounds : Nat) :
    Handler String := do
  if ← nodeOnline nodeId then
    runReadTask taskId nodeId .readAgentLog
      (.obj
        [ ("log_type", .str "agent_service"),
          ("file_name", .str "lightai-agent.log"),
          ("max_bytes", .int (min maxBytes (512 * 1024))) ])
      (readEnded (fun result => pure ((result.getStr "content").getD "")) "Agent log read failed")
      (.conflict "Agent log read timed out") rounds
  else throw (.conflict "Node Agent offline, cannot read Agent log")

/-- The text that `refresh_instance_logs` keeps of a result. -/
def instanceLogTail (result : Json) : String :=
  let content := (result.getStr "content").getD ""
  let logMessage := (result.getStr "message").getD ""
  if logMessage = "" then content else "【" ++ logMessage ++ "】\n" ++ content

def refreshInstanceLogs (id taskId : String) (rounds : Nat) : Handler String := do
  let row ← modelInstance id
  if row.deployType ≠ "local" then
    throw (.badRequest ("External instances are not managed by the platform Agent and do not " ++
      "support log refresh. (外部实例不由平台 Agent 管理，不支持读取日志)"))
  else do
    let nodeId ← required (.badRequest "Local instance missing node") row.nodeId
    if ← nodeOnline nodeId then
      let runtimeEnvironmentId ←
        required (.badRequest "Local instance missing runtime environment") row.runtimeEnvironmentId
      let env ← runtimeEnvironment runtimeEnvironmentId
      runReadTask taskId nodeId .readInstanceLog
        (.obj
          [ ("instance_id", .str id),
            ("backend", .str env.backend),
            ("runtime_environment_id", .str runtimeEnvironmentId),
            ("log_dir", .ofOption env.logDir),
            ("max_bytes", .int (64 * 1024)) ])
        (readEnded
          (fun result => do
            let now ← nowUnixSecs
            execute (.setInstanceLogTail id (instanceLogTail result) now)
            pure (instanceLogTail result))
          "Instance log read failed")
        (.conflict "Instance log read timed out") rounds
    else throw (.conflict "Node Agent offline, cannot refresh instance log")

def ollamaModelList (deps : External) (nodeId runtimeEnvId taskId : String) (rounds : Nat) :
    Handler (List Json) := do
  if ← nodeOnline nodeId then
    let env ← runtimeEnvironment runtimeEnvId
    runReadTask taskId nodeId .listOllamaModels
      (.obj
        [ ("runtime_environment_id", .str runtimeEnvId),
          ("runtime_params", (env.paramsJson.bind deps.jsonFromStr).getD .null) ])
      (readEnded (fun result => pure (((result.get? "models").bind Json.asArray).getD []))
        "Ollama model list query failed")
      (.conflict "Ollama model list query timed out") rounds
  else throw (.conflict "Node Agent offline, cannot query Ollama models")

/-! ### The gateway -/

structure GatewayTaskRequest where
  binaryPath : Option String := none
  configPath : Option String := none
  workDir : Option String := none
  logPath : Option String := none
  healthUrl : Option String := none
  maxBytes : Option Nat := none

def validateRequiredPath (field : String) : Option String → Except DomainError Unit
  | none => .error (.badRequest (field ++ " is required"))
  | some value => validatePath field value

def validateRequiredUrl (deps : External) (field : String) : Option String → Except DomainError Unit
  | none => .error (.badRequest (field ++ " is required"))
  | some value =>
      match deps.urlParse value with
      | none => .error (.badRequest (field ++ " is invalid"))
      | some url =>
          if url.scheme ≠ "http" ∧ url.scheme ≠ "https" then
            .error (.badRequest (field ++ " must use http:// or https://"))
          else if !([some "127.0.0.1", some "localhost", some "::1"].contains url.hostStr) then
            .error (.badRequest (field ++ " must target localhost or loopback"))
          else if url.path ≠ "/health" then
            .error (.badRequest (field ++ " path must be /health"))
          else if url.query.isSome then
            .error (.badRequest (field ++ " must not include query parameters"))
          else .ok ()

def validateGatewayRequest (deps : External) (kind : TaskKind) (request : GatewayTaskRequest) :
    Except DomainError Unit :=
  match kind with
  | .startGateway | .restartGateway => do
      validateRequiredPath "binary_path" request.binaryPath
      validateRequiredPath "config_path" request.configPath
      validateRequiredPath "work_dir" request.workDir
      validateRequiredPath "log_path" request.logPath
      validateRequiredUrl deps "health_url" request.healthUrl
  | .stopGateway | .checkGateway | .readGatewayLog => .ok ()
  | _ => .error (.badRequest "Gateway task kind is invalid")

def insertOpt (key : String) : Option String → List (String × Json)
  | none => []
  | some value => [(key, .str value)]

def gatewayPayload (kind : TaskKind) (request : GatewayTaskRequest) : Json :=
  .obj <|
    (if kind = .startGateway || kind = .restartGateway then
      insertOpt "binary_path" request.binaryPath ++ insertOpt "config_path" request.configPath
        ++ insertOpt "work_dir" request.workDir ++ insertOpt "log_path" request.logPath
        ++ insertOpt "health_url" request.healthUrl
    else [])
    ++ match request.maxBytes with
      | none => []
      | some maxBytes => [("max_bytes", .int maxBytes)]

structure GatewayTaskResponse where
  gatewayStatus : String
  message : String
  processId : Option Int := none
  processRef : Option String := none
  healthUrl : Option String := none
  logTail : Option String := none
  command : Option String := none
  deriving DecidableEq

/-- An optional field of a response: absent, `null` or a value of its type. -/
def optionalField {β : Type} (read : Json → Option β) (result : Json) (key : String) :
    Option (Option β) :=
  match result.get? key with
  | none | some .null => some none
  | some value => (read value).map some

/-- `serde_json::from_str::<GatewayTaskResponse>`. -/
def gatewayResponseFromJson (result : Json) : Option GatewayTaskResponse := do
  let gatewayStatus ← result.getStr "gateway_status"
  let message ← result.getStr "message"
  let processId ← optionalField Json.asI64 result "process_id"
  let processRef ← optionalField Json.asStr result "process_ref"
  let healthUrl ← optionalField Json.asStr result "health_url"
  let logTail ← optionalField Json.asStr result "log_tail"
  let command ← optionalField Json.asStr result "command"
  pure { gatewayStatus, message, processId, processRef, healthUrl, logTail, command }

def gatewayResponseFromRow (task : AgentTask) : Except DomainError GatewayTaskResponse :=
  match task.resultJson with
  | none => .error (.conflict "Gateway task has no result")
  | some result =>
      match gatewayResponseFromJson result with
      | none => .error (.internal "Gateway task result is invalid")
      | some response => .ok response

def gatewayTaskTimedOut : DomainError :=
  .conflict "Gateway task timed out; confirm Agent is online and retry"

def gatewayTaskEnded (task : AgentTask) : Option (Handler GatewayTaskResponse) :=
  match task.status with
  | .succeeded => some (checked (gatewayResponseFromRow task))
  | .failed => some <|
      match gatewayResponseFromRow task with
      | .ok response => throw (.conflict response.message)
      | .error _ => throw (.conflict (task.errorMessage.getD "Gateway task failed"))
  | .timedOut => some (throw gatewayTaskTimedOut)
  | _ => none

def ensureNodeCanRunGatewayTask (nodeId : String) : Handler Unit := do
  ensureNodeExists nodeId
  if ← nodeOnline nodeId then pure ()
  else throw (.conflict "Node Agent offline, cannot execute Gateway task")

def runGatewayTask (deps : External) (nodeId : String) (kind : TaskKind)
    (request : GatewayTaskRequest) (taskId : String) (rounds : Nat) :
    Handler GatewayTaskResponse := do
  ensureNodeCanRunGatewayTask nodeId
  checked (validateGatewayRequest deps kind request)
  runReadTask taskId nodeId kind (gatewayPayload kind request) gatewayTaskEnded gatewayTaskTimedOut
    rounds

end LightAI.Server
