import LightAI.Server.Runtimes

/-!
# Model instances
-/

namespace LightAI.Server

structure ModelInstanceCreateRequest where
  modelId : Option String := none
  modelFileId : Option String := none
  nodeId : Option String := none
  runtimeEnvironmentId : Option String := none
  name : String
  deployType : Option String := none
  backend : Option String := none
  baseUrl : Option String := none
  endpointUrl : Option String := none
  healthUrl : Option String := none
  runtimeVersion : Option String := none
  modelName : Option String := none
  description : Option String := none
  status : Option String := none
  paramsJson : Option String := none

structure ModelInstanceUpdateRequest where
  name : Option String := none
  backend : Option String := none
  baseUrl : Option String := none
  endpointUrl : Option String := none
  healthUrl : Option String := none
  runtimeVersion : Option String := none
  modelName : Option String := none
  description : Option String := none
  status : Option String := none
  paramsJson : Option String := none

/-! ### Validation -/

def validateOptionalNonEmpty (field : String) (value : Option String) : Except DomainError Unit :=
  if value.all Text.isBlank then .error (.badRequest (field ++ " is required")) else .ok ()

def validateBaseUrlRequired (baseUrl : Option String) : Except DomainError Unit :=
  if baseUrl.all Text.isBlank then .error (.badRequest "base_url is required") else .ok ()

def validateInstanceDeployType (value : String) : Except DomainError Unit :=
  validateOneOf "deploy_type" value ["external", "local"]

def validateInstanceStatus (value : String) : Except DomainError Unit :=
  validateOneOf "status" value
    ["pending", "starting", "running", "stopping", "stopped", "failed", "unknown"]

def validateHttpUrl (deps : External) (field value : String) : Except DomainError Unit :=
  match deps.urlParse value with
  | none => .error (.badRequest (field ++ " must be a valid http:// or https:// URL"))
  | some url =>
      if url.scheme = "http" || url.scheme = "https" then .ok ()
      else .error (.badRequest (field ++ " must use http:// or https://"))

def validateInstanceUrls (deps : External) (baseUrl endpointUrl healthUrl : Option String) :
    Except DomainError Unit := do
  validateOptional (validateHttpUrl deps "base_url") baseUrl
  validateOptional (validateHttpUrl deps "endpoint_url") endpointUrl
  validateOptional (validateHttpUrl deps "health_url") healthUrl

def validateExtraArg (arg : Json) : Except DomainError Unit :=
  match arg.asStr with
  | none => .error (.badRequest "extra args must be one string per line")
  | some arg =>
      if Text.isBlank arg || arg.utf8ByteSize > 256 || arg.toList.any Text.isControl then
        .error (.badRequest "invalid extra args")
      else .ok ()

def validateExtraArgs : List Json → Except DomainError Unit
  | [] => .ok ()
  | arg :: args => do
      validateExtraArg arg
      validateExtraArgs args

def validateListenHost (params : Json) : Except DomainError Unit :=
  match params.getStr "host" with
  | none => .ok ()
  | some host =>
      if Text.isBlank host || host.utf8ByteSize > 128 || host.toList.any Text.isControl then
        .error (.badRequest "invalid listen address")
      else .ok ()

def validateListenPort (params : Json) : Except DomainError Unit :=
  match params.getU64 "port" with
  | none => .ok ()
  | some port =>
      if port = 0 || port > 65535 then .error (.badRequest "invalid listen port") else .ok ()

/-- A blank text stands for no parameters. -/
def parseInstanceParams (deps : External) (value : Option String) : Except DomainError Json :=
  match (value.map Text.trim).filter (· ≠ "") with
  | none => .ok (.obj [])
  | some value =>
      match deps.jsonFromStr value with
      | none => .error (.badRequest "params_json must be valid JSON")
      | some parsed => do
          refuse (!parsed.isObject) (.badRequest "runtime params must be a JSON object")
          validateListenHost parsed
          validateListenPort parsed
          validateExtraArgs (((parsed.get? "extra_args").bind Json.asArray).getD [])
          pure parsed

/-! ### Creating an instance -/

structure InstanceModelFile where
  modelId : String
  nodeId : String
  path : String
  pathType : Option String

def verifiedModelFileForInstance (modelFileId : String) : Handler InstanceModelFile := do
  let row ← query fun db => (db.modelFiles.find? modelFileId).filter (·.deletedAt.isNone)
  let file ← required (.badRequest "model file does not exist") row
  rejectIf (file.status ≠ "verified")
    (.badRequest "local instance requires a verified model file")
  pure
    { modelId := file.modelId
      nodeId := file.nodeId
      path := file.path
      pathType := file.pathType }

/-- The check of the model of an Ollama instance, which is named in its parameters. -/
def validateOllamaModel (params : Json) : Except DomainError Unit :=
  match (params.getStr "ollama_model").filter (!Text.isBlank ·) with
  | none => .error (.badRequest "ollama_model is required for Ollama backend instances")
  | some name =>
      if name.utf8ByteSize > 256 || name.toList.any Text.isControl then
        .error (.badRequest "ollama_model contains invalid characters")
      else .ok ()

/-- The model and the model file of a new local instance. -/
def localInstanceModel (request : ModelInstanceCreateRequest) (nodeId : String)
    (env : RuntimeEnvironment) (params : Json) : Handler (Option String × Option String) := do
  if env.backend = "ollama" then
    checked (validateOllamaModel params)
    pure (none, none)
  else do
    let modelFileId ←
      required (.badRequest "Local instance requires a verified model file") request.modelFileId
    let file ← verifiedModelFileForInstance modelFileId
    rejectIf (file.nodeId ≠ nodeId)
      (.badRequest "Model file does not belong to the selected node")
    pure (some file.modelId, some modelFileId)

def createLocalModelInstance (deps : External) (request : ModelInstanceCreateRequest) (id : String) :
    Handler ModelInstanceView := do
  checked (validateJsonField deps "params_json" request.paramsJson)
  let params ← checked (parseInstanceParams deps request.paramsJson)
  let nodeId ← required (.badRequest "Local instance requires a node") request.nodeId
  let runtimeEnvironmentId ←
    required (.badRequest "Local instance requires a runtime environment")
      request.runtimeEnvironmentId
  let env ← runtimeEnvironment runtimeEnvironmentId
  rejectIf (env.nodeId ≠ some nodeId)
    (.badRequest "Runtime environment does not belong to the selected node")
  rejectIf (!runtimeEnvironmentUsable env.checkStatus)
    (.badRequest "Runtime environment has not passed Agent check")
  let model ← localInstanceModel request nodeId env params
  let now ← nowUnixSecs
  inserted (← execute (.insertModelInstance
    { id
      modelId := model.1
      modelFileId := model.2
      nodeId := some nodeId
      runtimeEnvironmentId := some runtimeEnvironmentId
      name := request.name
      backend := env.backend
      deployType := "local"
      status := "stopped"
      runtimeVersion := env.version
      modelName := request.modelName
      description := request.description
      paramsJson := request.paramsJson
      createdAt := now
      updatedAt := now }))
  modelInstance id

/-- The model of an external instance, which need not have one. -/
def ensureInstanceModel : Option String → Handler Unit
  | none => pure ()
  | some modelId => do
      let found ← query fun db => (db.models.find? modelId).any (·.deletedAt.isNone)
      rejectIf (!found) (.badRequest "model not found")

def createExternalModelInstance (deps : External) (request : ModelInstanceCreateRequest)
    (deployType id : String) : Handler ModelInstanceView := do
  let backend := ((request.backend.map Text.trim).filter (· ≠ "")).getD "custom"
  checked (validateBackend backend)
  checked (validateBaseUrlRequired request.baseUrl)
  checked (validateOptionalNonEmpty "model_name" request.modelName)
  checked (validateInstanceUrls deps request.baseUrl request.endpointUrl request.healthUrl)
  checked (validateJsonField deps "params_json" request.paramsJson)
  ensureInstanceModel request.modelId
  let now ← nowUnixSecs
  inserted (← execute (.insertModelInstance
    { id
      modelId := request.modelId
      nodeId := request.nodeId
      runtimeEnvironmentId := request.runtimeEnvironmentId
      name := request.name
      backend
      deployType
      status := request.status.getD "unknown"
      baseUrl := request.baseUrl
      endpointUrl := request.endpointUrl
      healthUrl := request.healthUrl
      runtimeVersion := request.runtimeVersion
      modelName := request.modelName
      description := request.description
      paramsJson := request.paramsJson
      createdAt := now
      updatedAt := now }))
  modelInstance id

def createModelInstance (deps : External) (request : ModelInstanceCreateRequest) (id : String) :
    Handler ModelInstanceView := do
  checked (validateNonEmpty "name" request.name)
  checked (validateInstanceStatus (request.status.getD "unknown"))
  let deployType := request.deployType.getD "external"
  checked (validateInstanceDeployType deployType)
  if deployType = "local" then createLocalModelInstance deps request id
  else createExternalModelInstance deps request deployType id

/-! ### Updating and deleting an instance -/

/-- `is_config_change`. -/
def ModelInstanceUpdateRequest.isConfigChange (request : ModelInstanceUpdateRequest) : Bool :=
  request.name.isSome || request.paramsJson.isSome || request.backend.isSome
    || request.baseUrl.isSome || request.endpointUrl.isSome || request.healthUrl.isSome
    || request.runtimeVersion.isSome || request.modelName.isSome

def updateLocalModelInstance (deps : External) (id : String) (request : ModelInstanceUpdateRequest)
    (current : ModelInstanceView) : Handler ModelInstanceView := do
  let name := request.name.getD current.name
  checked (validateNonEmpty "name" name)
  let paramsJson := request.paramsJson.or current.paramsJson
  checked (validateJsonField deps "params_json" paramsJson)
  let now ← nowUnixSecs
  execute (.updateLocalInstance id
    { name, description := request.description.or current.description, paramsJson } now)
  modelInstance id

def updateExternalModelInstance (deps : External) (id : String)
    (request : ModelInstanceUpdateRequest) (current : ModelInstanceView) :
    Handler ModelInstanceView := do
  let name := request.name.getD current.name
  checked (validateNonEmpty "name" name)
  let status := request.status.getD current.status
  checked (validateInstanceStatus status)
  checked (validateOptional (fun backend =>
    if Text.isBlank backend then .ok () else validateBackend backend) request.backend)
  checked (validateBaseUrlRequired (request.baseUrl.or current.baseUrl))
  checked (validateOptionalNonEmpty "model_name" (request.modelName.or current.modelName))
  checked (validateInstanceUrls deps request.baseUrl request.endpointUrl request.healthUrl)
  let paramsJson := request.paramsJson.or current.paramsJson
  checked (validateJsonField deps "params_json" paramsJson)
  let now ← nowUnixSecs
  execute (.updateExternalInstance id
    { name
      backend := (request.backend.filter (!Text.isBlank ·)).getD current.backend
      status
      baseUrl := request.baseUrl.or current.baseUrl
      endpointUrl := request.endpointUrl.or current.endpointUrl
      healthUrl := request.healthUrl.or current.healthUrl
      runtimeVersion := request.runtimeVersion.or current.runtimeVersion
      modelName := request.modelName.or current.modelName
      description := request.description.or current.description
      paramsJson } now)
  modelInstance id

def updateModelInstance (deps : External) (id : String) (request : ModelInstanceUpdateRequest) :
    Handler ModelInstanceView := do
  let current ← modelInstance id
  if busyStatus current.status && request.isConfigChange then
    throw (.conflict "Cannot modify a running instance. Stop it first.")
  else if current.deployType = "local" then updateLocalModelInstance deps id request current
  else updateExternalModelInstance deps id request current

def deleteModelInstance (id : String) : Handler Unit := do
  let row ← modelInstance id
  if busyStatus row.status then
    throw (.conflict "Cannot delete a running instance. Stop it first.")
  else do
    let found : Bool ← execute (.deleteModelInstance id)
    if found then pure () else throw (.notFound "model instance not found")

/-! ### Tasks of a local instance -/

/-- The part of a task's payload that depends on the backend. -/
def instancePayload (deps : External) (row : ModelInstanceView) (runtimeEnvironmentId : String)
    (env : RuntimeEnvironment) (params : Json) (file : Option (String × InstanceModelFile)) : Json :=
  .obj <|
    [ ("instance_id", .str row.id),
      ("runtime_environment_id", .str runtimeEnvironmentId),
      ("backend", .str env.backend),
      ("deploy_type", .str env.deployType),
      ("binary_path", .ofOption env.binaryPath) ]
    ++ (match file with
      | none => []
      | some _ => [("docker_image", .ofOption env.dockerImage)])
    ++ [ ("working_dir", .ofOption env.workingDir),
         ("log_dir", .ofOption env.logDir) ]
    ++ (match file with
      | none => []
      | some (modelFileId, file) =>
          [ ("model_file_id", .str modelFileId),
            ("model_path", .str file.path),
            ("model_path_type", .ofOption file.pathType) ])
    ++ [ ("base_url", .ofOption row.baseUrl),
         ("endpoint_url", .ofOption row.endpointUrl),
         ("params_json", .str (deps.jsonToString params)) ]

/-- The payload with the two keys that are set when there is something to set. -/
def completePayload (payload : Json) (runtimeParams : Option Json) (modelName : Option String) :
    Json :=
  let payload := match runtimeParams with
    | none => payload
    | some runtimeParams => payload.set "runtime_params" runtimeParams
  match modelName with
  | none => payload
  | some modelName => payload.set "model_name" (.str modelName)

/-- The model file of a task, which an Ollama instance has not. -/
def instanceTaskFile (row : ModelInstanceView) (env : RuntimeEnvironment) :
    Handler (Option (String × InstanceModelFile)) := do
  if env.backend = "ollama" then pure none
  else do
    let modelFileId ← required (.badRequest "Local instance missing model file") row.modelFileId
    let file ← verifiedModelFileForInstance modelFileId
    pure (some (modelFileId, file))

/-- `run_local_instance_task` up to its commit. -/
def enqueueLocalInstanceTask (deps : External) (id : String) (kind : TaskKind)
    (pendingStatus taskId : String) : Handler Unit := do
  let row ← modelInstance id
  rejectIf (row.deployType ≠ "local")
    (.badRequest "External instances are not started or stopped by the platform")
  let nodeId ← required (.badRequest "Local instance missing node") row.nodeId
  rejectIf (!(← nodeOnline nodeId))
    (.conflict "Node Agent offline, cannot execute local instance task")
  let runtimeEnvironmentId ←
    required (.badRequest "Local instance missing runtime environment") row.runtimeEnvironmentId
  let env ← runtimeEnvironment runtimeEnvironmentId
  rejectIf (!runtimeEnvironmentUsable env.checkStatus)
    (.badRequest "Runtime environment has not passed Agent check")
  let params ← checked (parseInstanceParams deps row.paramsJson)
  let now ← nowUnixSecs
  let file ← instanceTaskFile row env
  let payload := completePayload (instancePayload deps row runtimeEnvironmentId env params file)
    (env.paramsJson.bind deps.jsonFromStr) row.modelDefinitionName
  inserted (← execute (.enqueueInstanceTask
    { id := taskId, nodeId, kind, payloadJson := payload, now } id pendingStatus now))

def instanceTaskTimedOut : DomainError :=
  .conflict "Local instance task timed out; confirm Agent is online and retry"

def instanceTaskEnded (instanceId : String) (task : AgentTask) :
    Option (Handler ModelInstanceView) :=
  match task.status with
  | .succeeded => some (modelInstance instanceId)
  | .failed => some (throw (.conflict (failureMessage task "Local instance task failed")))
  | .timedOut => some (throw instanceTaskTimedOut)
  | _ => none

def instanceTaskDeadline (instanceId taskId : String) : Handler ModelInstanceView := do
  markTaskTimedOut taskId
  let _ ← updateInstanceCheck instanceId "failed" (some "local instance task timed out")
  throw instanceTaskTimedOut

def waitForModelInstanceTask (instanceId taskId : String) (rounds : Nat) :
    Handler ModelInstanceView :=
  waitForTask taskId (instanceTaskEnded instanceId) (instanceTaskDeadline instanceId taskId) rounds

def runLocalInstanceTask (deps : External) (id : String) (kind : TaskKind) (pendingStatus : String)
    (taskId : String) (rounds : Nat) : Handler ModelInstanceView := do
  enqueueLocalInstanceTask deps id kind pendingStatus taskId
  waitForModelInstanceTask id taskId rounds

def startModelInstance (deps : External) (id taskId : String) (rounds : Nat) :
    Handler ModelInstanceView :=
  runLocalInstanceTask deps id .startModelInstance "starting" taskId rounds

def stopModelInstance (deps : External) (id taskId : String) (rounds : Nat) :
    Handler ModelInstanceView :=
  runLocalInstanceTask deps id .stopModelInstance "stopping" taskId rounds

/-! ### Checking and testing an instance -/

/-- How an HTTP request of `check_url` ends. -/
inductive HttpOutcome where
  | response (code : Nat) (status : String)
  | error (message : String)

structure CheckResult where
  status : String
  message : String

def checkUrl : HttpOutcome → CheckResult
  | .response code status =>
      if 200 ≤ code ∧ code < 400 then { status := "running", message := "HTTP " ++ status }
      else { status := "failed", message := "HTTP " ++ status }
  | .error message => { status := "failed", message }

def checkExternalInstance (row : ModelInstanceView) (id : String) (http : HttpOutcome) :
    Handler ModelInstanceView :=
  match (row.healthUrl.or row.endpointUrl).or row.baseUrl with
  | none => updateInstanceCheck id "unknown" (some "no check URL configured")
  | some _ =>
      let result := checkUrl http
      updateInstanceCheck id result.status
        (if result.status = "running" then none else some result.message)

/-- `check_model_instance` up to the wait, if it comes to one: the view it returns at once, or
nothing when a task has been enqueued. -/
def beginCheck (deps : External) (id taskId : String) (http : HttpOutcome) :
    Handler (Option ModelInstanceView) := do
  let row ← modelInstance id
  if row.deployType ≠ "external" then
    if row.status ≠ "running" && row.backend ≠ "ollama" then pure (some row)
    else do
      let nodeId ← required (.badRequest "Local instance missing node") row.nodeId
      if ← nodeOnline nodeId then
        enqueueLocalInstanceTask deps id .checkModelInstance "running" taskId
        pure none
      else do
        let view ← updateInstanceCheck id row.status
          (some "Agent offline, cannot check instance status")
        pure (some view)
  else do
    let view ← checkExternalInstance row id http
    pure (some view)

/-- The wait of a request that has enqueued a task. -/
def finishCheck (id taskId : String) (rounds : Nat) :
    Option ModelInstanceView → Handler ModelInstanceView
  | some view => pure view
  | none => waitForModelInstanceTask id taskId rounds

def checkModelInstance (deps : External) (id taskId : String) (http : HttpOutcome) (rounds : Nat) :
    Handler ModelInstanceView := do
  let begun ← beginCheck deps id taskId http
  finishCheck id taskId rounds begun

/-- `test_model_instance` up to the wait. -/
def beginTest (deps : External) (id taskId : String) (http : HttpOutcome) :
    Handler (Option ModelInstanceView) := do
  let row ← modelInstance id
  if row.deployType = "external" then beginCheck deps id taskId http
  else if row.status ≠ "running" && row.backend ≠ "ollama" then
    throw (.badRequest "Local instance is not running, cannot test")
  else do
    enqueueLocalInstanceTask deps id .testModelInstance "running" taskId
    pure none

def testModelInstance (deps : External) (id taskId : String) (http : HttpOutcome) (rounds : Nat) :
    Handler ModelInstanceView := do
  let begun ← beginTest deps id taskId http
  finishCheck id taskId rounds begun

end LightAI.Server
