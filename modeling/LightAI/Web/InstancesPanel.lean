import LightAI.Web.InstanceParams

/-!
# The panel of instances

The panel opens an instance with the fields that it reads from the parameters of the row and from the runtime
environment, and sends what it writes from the fields.
-/

namespace LightAI.Web

open JsValue FormText

/-- A runtime environment as the panel has fetched it. -/
structure RuntimeEntry where
  id : String
  backend : String
  deployType : String
  paramsJson : JsonText

/-- An instance as the panel has fetched it. -/
structure InstanceRow where
  id : String
  modelId : Option String
  modelFileId : Option String
  nodeId : Option String
  runtimeEnvironmentId : Option String
  name : String
  deployType : String
  backend : String
  modelName : Option String
  runtimeVersion : Option String
  baseUrl : Option String
  endpointUrl : Option String
  healthUrl : Option String
  description : Option String
  paramsJson : JsonText
  status : String

structure InstancesPanel where
  editingId : String := ""
  form : InstanceForm := emptyForm
  instOverrides : Overrides := fun _ => false
  runtimeDefaults : DockerRuntimeDefaults := {}
  runtimeEnvironments : List RuntimeEntry := []
  instances : List InstanceRow := []
  compatWarning : String := ""
  compatError : Bool := false

/-- What is sent when an instance is saved. The parameters are what their text is read as. -/
structure InstancePayload where
  modelId : Option String
  modelFileId : Option String
  nodeId : Option String
  runtimeEnvironmentId : Option String
  name : String
  deployType : String
  backend : Option String
  baseUrl : Option String
  endpointUrl : Option String
  healthUrl : Option String
  runtimeVersion : Option String
  modelName : Option String
  description : Option String
  paramsJson : Option JsValue
  status : String

def findRuntime (runtimeEnvironments : List RuntimeEntry) (id : String) : Option RuntimeEntry :=
  runtimeEnvironments.find? (·.id = id)

namespace InstancesPanel

variable (panel : InstancesPanel)

def runtime : Option RuntimeEntry := findRuntime panel.runtimeEnvironments panel.form.runtimeEnvironmentId

def isDockerRuntime : Bool := panel.runtime.any (·.deployType = "docker")

def isOllamaRuntime : Bool := panel.runtime.any (·.backend = "ollama")

def isInstanceRunning : Bool :=
  panel.editingId ≠ "" && (panel.instances.find? (·.id = panel.editingId)).any fun inst =>
    ["running", "starting", "stopping"].contains inst.status

end InstancesPanel

/-- The form of an instance that is opened. -/
def editForm (conversions : Conversions) (rtDefaults : DockerRuntimeDefaults) (row : InstanceRow) :
    InstanceForm :=
  let params := parseParams row.paramsJson
  let instOverrides := detectOverrides row.paramsJson
  let joinAll (items : List JsValue) := Text.join (items.map (joined conversions))
  { modelId := row.modelId.getD ""
    modelFileId := row.modelFileId.getD ""
    nodeId := row.nodeId.getD ""
    runtimeEnvironmentId := row.runtimeEnvironmentId.getD ""
    name := row.name
    deployType := row.deployType
    backend := if row.backend = "custom" then "" else row.backend
    modelName := row.modelName.getD ""
    runtimeVersion := row.runtimeVersion.getD ""
    baseUrl := row.baseUrl.getD ""
    endpointUrl := row.endpointUrl.getD ""
    healthUrl := row.healthUrl.getD ""
    description := row.description.getD ""
    host := params.host
    port := some (num params.port)
    ctxSize := some (num params.ctxSize)
    gpuLayers := some (num params.gpuLayers)
    threads := some (num params.threads)
    extraArgsText := Text.join params.extraArgs
    containerName := params.containerName
    hostPort := some (num params.hostPort)
    containerPort := some (num rtDefaults.containerPort)
    modelContainerPath := params.modelContainerPath
    servedModelName := params.servedModelName
    gpuMemoryUtilization := some
      (if instOverrides .gpuMemoryUtilization then num params.gpuMemoryUtilization
      else rtDefaults.gpuMemoryUtilization)
    maxModelLen := some (if instOverrides .maxModelLen then num params.maxModelLen else rtDefaults.maxModelLen)
    maxNumSeqs := some (if instOverrides .maxNumSeqs then num params.maxNumSeqs else rtDefaults.maxNumSeqs)
    tensorParallelSize := some
      (if instOverrides .tensorParallelSize then num params.tensorParallelSize
      else rtDefaults.tensorParallelSize)
    dockerGpu := if instOverrides .gpu then params.dockerGpu else rtDefaults.gpu
    extraDockerArgsText :=
      if instOverrides .extraDockerArgs then params.extraDockerArgsText else joinAll rtDefaults.extraDockerArgs
    extraBackendArgsText :=
      if instOverrides .extraBackendArgs then params.extraBackendArgsText
      else joinAll rtDefaults.extraBackendArgs
    probePathsText := params.probePathsText
    probeMaxAttempts := some (num params.probeMaxAttempts)
    probeIntervalMs := some (num params.probeIntervalMs)
    probeTimeoutMs := some (num params.probeTimeoutMs)
    paramsJson := row.paramsJson
    ollamaModel := params.ollamaModel
    ollamaKeepAlive := params.ollamaKeepAlive }

/-- The defaults that instances of a runtime environment have, those of none if it is not found. -/
def runtimeDefaultsOf (runtime : Option RuntimeEntry) : DockerRuntimeDefaults :=
  parseRuntimeDefaults ((runtime.map RuntimeEntry.paramsJson).getD .absent)

def openEdit (conversions : Conversions) (panel : InstancesPanel) (row : InstanceRow) : InstancesPanel :=
  let rtDefaults :=
    runtimeDefaultsOf (findRuntime panel.runtimeEnvironments (row.runtimeEnvironmentId.getD ""))
  { panel with
    editingId := row.id
    runtimeDefaults := rtDefaults
    instOverrides := detectOverrides row.paramsJson
    form := editForm conversions rtDefaults row }

/-- What `submit` shows when it does not send the form. -/
def refusal (panel : InstancesPanel) : Option String :=
  let form := panel.form
  if panel.editingId ≠ "" ∧ panel.isInstanceRunning then
    some "实例正在运行中，不能修改配置。请先停止实例。"
  else if panel.compatError then
    some (if panel.compatWarning = "" then "模型与运行环境不兼容，无法创建实例。" else panel.compatWarning)
  else if form.deployType = "external" ∧ (form.name = "" ∨ form.modelName = "" ∨ form.baseUrl = "") then
    some "请填写实例名称、服务模型名和基础地址"
  else if form.deployType = "local" then
    if form.name = "" ∨ form.nodeId = "" ∨ form.runtimeEnvironmentId = "" then
      some "请填写本地实例名称、节点和运行环境"
    else if panel.isOllamaRuntime then
      if trim form.ollamaModel = "" then some "请选择或输入 Ollama 模型名称" else none
    else if form.modelFileId = "" then some "请选择模型文件"
    else none
  else none

def paramsToSend (conversions : Conversions) (panel : InstancesPanel) : Option JsValue :=
  if panel.form.deployType = "local" then
    some (record
      (if panel.isDockerRuntime then buildDockerInstanceParams panel.form panel.instOverrides
      else if panel.isOllamaRuntime then buildOllamaParams panel.form
      else localParams conversions panel.form))
  else none

def payload (conversions : Conversions) (panel : InstancesPanel) : InstancePayload :=
  let form := panel.form
  { modelId := emptyToNull form.modelId
    modelFileId := emptyToNull form.modelFileId
    nodeId := emptyToNull form.nodeId
    runtimeEnvironmentId := emptyToNull form.runtimeEnvironmentId
    name := form.name
    deployType := form.deployType
    backend := emptyToNull form.backend
    baseUrl := emptyToNull form.baseUrl
    endpointUrl := emptyToNull form.endpointUrl
    healthUrl := emptyToNull form.healthUrl
    runtimeVersion := emptyToNull form.runtimeVersion
    modelName := emptyToNull form.modelName
    description := emptyToNull form.description
    paramsJson := paramsToSend conversions panel
    status := "unknown" }

def submit (conversions : Conversions) (panel : InstancesPanel) : Except String InstancePayload :=
  match refusal panel with
  | some message => .error message
  | none => .ok (payload conversions panel)

end LightAI.Web
