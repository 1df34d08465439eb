import LightAI.Server.AgentTasks

/-!
# Runtime environments
-/

namespace LightAI.Server

structure RuntimeEnvironmentRequest where
  name : String
  backend : String
  deployType : String
  version : Option String := none
  baseUrl : Option String := none
  healthUrl : Option String := none
  endpointUrl : Option String := none
  binaryPath : Option String := none
  dockerImage : Option String := none
  workingDir : Option String := none
  logDir : Option String := none
  allowedModelDirsJson : Option String := none
  paramsJson : Option String := none
  enabled : Option Bool := none

def validateRuntimeEntrypoints (request : RuntimeEnvironmentRequest) : Except DomainError Unit := do
  refuse ([request.baseUrl, request.healthUrl, request.endpointUrl].any (·.any (!Text.isBlank ·)))
    (.badRequest "Runtime no longer accepts External URL; connect external services via Instance")
  validateOptional (validatePath "binary_path") request.binaryPath
  validateOptional (validatePath "working_dir") request.workingDir
  validateOptional (validatePath "log_dir") request.logDir
  validateOptional (validateNoWhitespace "docker_image") request.dockerImage
  refuse (request.deployType = "docker" && request.dockerImage.all (· = ""))
    (.badRequest "Docker runtime must specify an image")
  refuse ((request.deployType = "script" || request.deployType = "binary")
      && request.backend ≠ "ollama" && request.binaryPath.all (· = ""))
    (.badRequest "Runtime must specify a controlled entry path")

/-- The checks that `create_runtime_environment` and `update_runtime_environment` start with. -/
def validateRuntimeRequest (deps : External) (request : RuntimeEnvironmentRequest) :
    Except DomainError Unit := do
  validateNonEmpty "name" request.name
  validateBackend request.backend
  validateDeployType request.deployType
  validateRuntimeEntrypoints request
  validateJsonField deps "allowed_model_dirs_json" request.allowedModelDirsJson
  validateJsonField deps "params_json" request.paramsJson

def runtimeEnvironment (id : String) : Handler RuntimeEnvironment := do
  let row ← query fun db => db.runtimeEnvironments.find? id
  required (.notFound "runtime environment not found") row

def updateRuntimeEnvironmentCheck (id status message : String) : Handler RuntimeEnvironment := do
  let now ← nowUnixSecs
  execute (.updateRuntimeCheck id status message now)
  runtimeEnvironment id

def ollamaRuntimeConfigCheck : Handler CheckedRuntimeEnvironment := do
  let now ← nowUnixSecs
  pure
    { checkStatus := "available"
      version := none
      message := "Ollama runtime config saved; daemon availability is checked when listing models " ++
        "or starting instances"
      checkedAt := now }

/-- The check of an Ollama environment, which never asks the agent. -/
def refreshOllamaCheck (id : String) : Handler RuntimeEnvironment := do
  let outcome ← ollamaRuntimeConfigCheck
  let _ ← updateRuntimeEnvironmentCheck id outcome.checkStatus outcome.message
  runtimeEnvironment id

def runtimeEnvironmentUsable (status : Option String) : Bool :=
  status = some "available" || status = some "version_unavailable"

/-! ### The check by the agent -/

def runtimeCheckMessage (result : Json) : String :=
  ((result.getStr "message").filter (!Text.isBlank ·)).getD "Runtime check failed"

def runtimeCheckTimedOut : DomainError :=
  .conflict "Runtime check timed out; confirm Agent is online and retry"

def runtimeCheckEnded (task : AgentTask) : Option (Handler CheckedRuntimeEnvironment) :=
  let result := task.resultJson.getD (.obj [])
  match task.status with
  | .succeeded => some <|
      let checkStatus := (result.getStr "check_status").getD "available"
      if checkStatus ≠ "available" && checkStatus ≠ "version_unavailable" then
        throw (.badRequest (runtimeCheckMessage result))
      else do
        let now ← nowUnixSecs
        pure
          { checkStatus
            version := result.getStr "version"
            message := runtimeCheckMessage result
            checkedAt := now }
  | .failed => some (throw (.badRequest (runtimeCheckMessage result)))
  | .timedOut => some (throw runtimeCheckTimedOut)
  | _ => none

def runtimeCheckPayload (request : RuntimeEnvironmentRequest) : Json :=
  .obj
    [ ("name", .str request.name),
      ("backend", .str request.backend),
      ("deploy_type", .str request.deployType),
      ("version", .ofOption request.version),
      ("binary_path", .ofOption request.binaryPath),
      ("docker_image", .ofOption request.dockerImage),
      ("working_dir", .ofOption request.workingDir),
      ("params_json", .ofOption request.paramsJson) ]

def checkRuntimeEnvironmentBeforeSave (nodeId : String) (request : RuntimeEnvironmentRequest)
    (taskId : String) (rounds : Nat) : Handler CheckedRuntimeEnvironment := do
  let now ← nowUnixSecs
  inserted (← execute (.insertAgentTask
    { id := taskId
      nodeId
      kind := .checkRuntimeEnvironment
      payloadJson := runtimeCheckPayload request
      now }))
  waitForTask taskId runtimeCheckEnded
    (do
      markTaskTimedOut taskId
      throw runtimeCheckTimedOut)
    rounds

/-! ### Requests -/

def checkNewRuntime (nodeId : String) (request : RuntimeEnvironmentRequest) (taskId : String)
    (rounds : Nat) : Handler CheckedRuntimeEnvironment := do
  if request.backend = "ollama" then ollamaRuntimeConfigCheck
  else do
    ensureNodeOnline nodeId
    checkRuntimeEnvironmentBeforeSave nodeId request taskId rounds

def createRuntimeEnvironment (deps : External) (nodeId : String)
    (request : RuntimeEnvironmentRequest) (id taskId : String) (rounds : Nat) :
    Handler RuntimeEnvironment := do
  checked (validateRuntimeRequest deps request)
  let outcome ← checkNewRuntime nodeId request taskId rounds
  let now ← nowUnixSecs
  inserted (← execute (.insertRuntime
    { id
      nodeId := some nodeId
      name := request.name
      backend := request.backend
      deployType := request.deployType
      version := outcome.version.or request.version
      binaryPath := request.binaryPath
      dockerImage := request.dockerImage
      workingDir := request.workingDir
      logDir := request.logDir
      allowedModelDirsJson := request.allowedModelDirsJson
      paramsJson := request.paramsJson
      enabled := request.enabled.getD true
      lastCheckedAt := some outcome.checkedAt
      checkStatus := some outcome.checkStatus
      checkMessage := some outcome.message
      createdAt := now
      updatedAt := now }))
  runtimeEnvironment id

/-- The error of an update of a runtime environment that running instances use. -/
def runtimeInUse (names : List String) : DomainError :=
  .conflict ("Runtime in use by running instance " ++ ", ".intercalate names ++
    ". Cannot modify. Stop the instance first.")

/-- The part of `update_runtime_environment` after its guards. -/
def saveRuntimeEnvironment (id : String) (request : RuntimeEnvironmentRequest) :
    Handler RuntimeEnvironment := do
  let now ← nowUnixSecs
  let found ← execute (.updateRuntime id
    { name := request.name
      backend := request.backend
      deployType := request.deployType
      version := request.version
      binaryPath := request.binaryPath
      dockerImage := request.dockerImage
      workingDir := request.workingDir
      logDir := request.logDir
      allowedModelDirsJson := request.allowedModelDirsJson
      paramsJson := request.paramsJson
      enabled := request.enabled.getD true } now)
  rejectIf (!found) (.notFound "runtime environment not found")
  if request.backend = "ollama" then refreshOllamaCheck id else runtimeEnvironment id

def updateRuntimeEnvironment (deps : External) (id : String) (request : RuntimeEnvironmentRequest) :
    Handler RuntimeEnvironment := do
  checked (validateRuntimeRequest deps request)
  let runningInstances ← query fun db =>
    (db.modelInstances.rows.filter fun row =>
      row.runtimeEnvironmentId = some id && busyStatus row.status).map (·.name)
  rejectIf (runningInstances ≠ []) (runtimeInUse runningInstances)
  saveRuntimeEnvironment id request

def deleteRuntimeEnvironment (id : String) : Handler Unit := do
  let instanceCount ← query fun db =>
    (db.modelInstances.rows.filter (·.runtimeEnvironmentId = some id)).length
  rejectIf (instanceCount > 0)
    (.conflict "runtime environment is used by model instances")
  let found ← checked (← execute (.deleteRuntime id))
  rejectIf (!found) (.notFound "runtime environment not found")

/-- The request that the stored row of a runtime environment amounts to. -/
def runtimeRequestOfRow (environment : RuntimeEnvironment) : RuntimeEnvironmentRequest :=
  { name := environment.name
    backend := environment.backend
    deployType := environment.deployType
    version := environment.version
    binaryPath := environment.binaryPath
    dockerImage := environment.dockerImage
    workingDir := environment.workingDir
    logDir := environment.logDir
    allowedModelDirsJson := environment.allowedModelDirsJson
    paramsJson := environment.paramsJson
    enabled := some environment.enabled }

def checkRuntimeEnvironment (id taskId : String) (rounds : Nat) : Handler RuntimeEnvironment := do
  let environment ← runtimeEnvironment id
  if environment.backend = "ollama" then refreshOllamaCheck id
  else do
    let nodeId ← required (.badRequest "Runtime must be bound to a node") environment.nodeId
    if ← nodeOnline nodeId then
      let outcome ←
        checkRuntimeEnvironmentBeforeSave nodeId (runtimeRequestOfRow environment) taskId rounds
      let now ← nowUnixSecs
      execute (.setRuntimeChecked id outcome now)
      runtimeEnvironment id
    else do
      let _ ← updateRuntimeEnvironmentCheck id "agent_offline"
        "Node Agent offline, cannot check runtime environment"
      throw (.conflict "Node Agent offline, cannot check runtime environment")

end LightAI.Server
