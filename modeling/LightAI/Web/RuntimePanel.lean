import LightAI.Web.RuntimeParams

/-!
# The panel of runtime environments

The panel opens a runtime environment over what it showed last: the fields for Ollama and the toggles keep what
the row has nothing to replace them with. The texts of the extra arguments start out empty.
-/

namespace LightAI.Web

open JsValue FormText

/-- A runtime environment as the panel has fetched it. -/
structure RuntimeRow where
  id : String
  nodeId : Option String
  name : String
  backend : String
  deployType : String
  version : Option String
  binaryPath : Option String
  dockerImage : Option String
  workingDir : Option String
  logDir : Option String
  enabled : Bool
  paramsJson : JsonText

structure RuntimeForm where
  nodeId : String := ""
  name : String := ""
  backend : String := "ollama"
  deployType : String := "binary"
  version : String := ""
  binaryPath : String := ""
  dockerImage : String := ""
  workingDir : String := ""
  logDir : String := ""
  enabled : Bool := true
  extraBackendArgs : String := ""
  extraDockerArgs : String := ""
  paramsJson : JsonText := .absent

/-- The fields for Ollama. A number input that has been cleared holds no number. -/
structure OllamaFields where
  host : String := "127.0.0.1"
  port : Option ℚ := some 11434
  modelsDir : String := ""
  maxLoadedModels : Option ℚ := some 2
  numParallel : Option ℚ := some 1
  maxQueue : Option ℚ := some 512
  keepAlive : String := "30m"
  contextLength : Option ℚ := some 4096

/-- An instance as far as the panel looks at it. -/
structure RuntimeUse where
  name : String
  runtimeEnvironmentId : Option String
  status : String

structure RuntimePanel where
  editingId : String := ""
  form : RuntimeForm := {}
  dockerRt : DockerRuntimeFields := defaultDockerRuntimeFields
  ollamaRt : OllamaFields := {}
  rtToggles : PanelToggles := {}
  instances : List RuntimeUse := []

/-- What is sent when a runtime environment is saved. The parameters are what their text is read as. -/
structure RuntimePayload where
  name : String
  backend : String
  deployType : String
  version : Option String
  baseUrl : Option String
  healthUrl : Option String
  endpointUrl : Option String
  binaryPath : Option String
  dockerImage : Option String
  workingDir : Option String
  logDir : Option String
  enabled : Bool
  paramsJson : Option JsValue

def ollamaDefaults (fields : OllamaFields) : List (String × Option JsValue) :=
  let number (value : Option ℚ) (usual : ℚ) := some (orElse (value.map num) (num usual))
  [("host", some (orElse (some (str fields.host)) (str "127.0.0.1"))),
    ("port", number fields.port 11434),
    ("max_loaded_models", number fields.maxLoadedModels 2),
    ("num_parallel", number fields.numParallel 1),
    ("max_queue", number fields.maxQueue 512),
    ("keep_alive", some (orElse (some (str fields.keepAlive)) (str "30m"))),
    ("context_length", number fields.contextLength 4096),
    ("models_dir", nonBlank fields.modelsDir)]

/-- The parameters as they are sent, with nothing for the empty text. -/
def currentRuntimeParamsJson (panel : RuntimePanel) : Option JsValue :=
  if panel.form.deployType = "docker" then
    some (record (assembleDockerRuntimeParams panel.dockerRt panel.form.backend { panel.rtToggles with }
      panel.form.extraBackendArgs panel.form.extraDockerArgs))
  else if panel.form.backend = "ollama" then
    some (record [("defaults", some (record (ollamaDefaults panel.ollamaRt)))])
  else if trim panel.form.extraBackendArgs = "" then none
  else some (record [("extra_backend_args", some (texts (linesToArgs panel.form.extraBackendArgs)))])

/-- `value?.length`, in UTF-16 code units for a text. -/
def lengthOf : Option JsValue → Option JsValue
  | some (arr items) => some (num items.length)
  | some (str text) => some (num (text.toList.map fun c => if c.toNat < 0x10000 then 1 else 2).sum)
  | value => get value "length"

/-- The toggles that the parameters of a container's runtime environment show. -/
def shownToggles (conversions : Conversions) (params : Option JsValue) : PanelToggles :=
  let given (key : String) := ((get (get params "defaults") key).filter fun found => !found.isNull).isSome
  { showCache := (get params "cache_host_path").any truthy || (get params "cache_container_path").any truthy
    showGpuMem := given "gpu_memory_utilization"
    showMaxModelLen := given "max_model_len"
    showMaxNumSeqs := given "max_num_seqs"
    showExtraBackend := moreThan conversions (lengthOf (get params "extra_backend_args")) 0
    showExtraDocker := moreThan conversions (lengthOf (get params "extra_docker_args")) 0 }

/-- The fields for Ollama, each replaced by what the parameters have for it if that is of its type. -/
def readOllamaFields (fields : OllamaFields) (params : Option JsValue) : OllamaFields :=
  let given := get (get params "defaults")
  let number (key : String) (value : Option ℚ) := ((given key).bind asNumber).or value
  { host := textOr (given "host") fields.host
    port := number "port" fields.port
    modelsDir := textOr (given "models_dir") fields.modelsDir
    maxLoadedModels := number "max_loaded_models" fields.maxLoadedModels
    numParallel := number "num_parallel" fields.numParallel
    maxQueue := number "max_queue" fields.maxQueue
    keepAlive := textOr (given "keep_alive") fields.keepAlive
    contextLength := number "context_length" fields.contextLength }

namespace RuntimePanel

def openEdit (conversions : Conversions) (panel : RuntimePanel) (row : RuntimeRow) : RuntimePanel :=
  { panel with
    editingId := row.id
    form :=
      { nodeId := row.nodeId.getD ""
        name := row.name
        backend := row.backend
        deployType := row.deployType
        version := row.version.getD ""
        binaryPath := row.binaryPath.getD ""
        dockerImage := row.dockerImage.getD ""
        workingDir := row.workingDir.getD ""
        logDir := row.logDir.getD ""
        enabled := row.enabled
        extraBackendArgs := ""
        extraDockerArgs := ""
        paramsJson := row.paramsJson }
    dockerRt :=
      if row.deployType = "docker" then parseDockerRuntimeParams conversions row.paramsJson else panel.dockerRt
    rtToggles :=
      -- a text that cannot be read leaves the toggles as they are
      if row.deployType = "docker" ∧ row.paramsJson.readable.isSome then
        shownToggles conversions row.paramsJson.readable
      else panel.rtToggles
    ollamaRt :=
      if row.backend = "ollama" then readOllamaFields panel.ollamaRt row.paramsJson.readable
      else panel.ollamaRt }

/-- Whether a number is missing or not within the bounds. -/
def outside (value : Option ℚ) (least : ℚ) (most : Option ℚ) : Bool :=
  value.all fun number => number = 0 || number < least || most.any fun most => most < number

def validateForm (conversions : Conversions) (panel : RuntimePanel) : Option String :=
  let form := panel.form
  let dockerRt := panel.dockerRt
  let rtToggles := panel.rtToggles
  let port := dockerRt.containerPort
  if trim form.name = "" then some "请填写名称"
  else if form.nodeId = "" then some "请选择节点"
  else if form.deployType = "docker" ∧ (dockerRt.image.bind asText).isNone then
    -- what is no text has no `trim`, and nothing catches the failure
    some "dockerRt.image.trim is not a function"
  else if form.deployType = "docker" ∧ trim (textOr dockerRt.image "") = "" then some "请填写 Docker 镜像"
  else if form.deployType = "docker"
      ∧ (!port.any truthy || lessThan conversions port 1 || moreThan conversions port 65535) then
    some "容器内服务端口无效"
  else if form.deployType = "docker" ∧ rtToggles.showGpuMem
      ∧ (atMost conversions dockerRt.gpuMemoryUtilization 0
        || moreThan conversions dockerRt.gpuMemoryUtilization 1) then
    some "显存使用比例需在 0~1 之间"
  else if form.deployType = "docker" ∧ rtToggles.showMaxModelLen
      ∧ lessThan conversions dockerRt.maxModelLen 1 then
    some "最大模型长度需为正整数"
  else if form.deployType = "docker" ∧ rtToggles.showMaxNumSeqs ∧ lessThan conversions dockerRt.maxNumSeqs 1 then
    some "最大并发序列数需为正整数"
  else if form.deployType ≠ "docker" ∧ form.backend ≠ "ollama" ∧ trim form.binaryPath = "" then
    some "请填写入口路径"
  else if form.backend = "ollama" then
    if outside panel.ollamaRt.port 1 (some 65535) then some "Ollama 端口需在 1-65535"
    else if outside panel.ollamaRt.maxLoadedModels 1 none then some "max_loaded_models 需为正整数"
    else if outside panel.ollamaRt.numParallel 1 none then some "num_parallel 需为正整数"
    else if outside panel.ollamaRt.maxQueue 1 none then some "max_queue 需为正整数"
    else if outside panel.ollamaRt.contextLength 1 none then some "context_length 需为正整数"
    else none
  else none

/-- The instances that keep the runtime environment from being changed. -/
def running (panel : RuntimePanel) : List RuntimeUse :=
  if panel.editingId = "" then []
  else
    panel.instances.filter fun use =>
      use.runtimeEnvironmentId = some panel.editingId && ["running", "starting", "stopping"].contains use.status

def payload (panel : RuntimePanel) : RuntimePayload :=
  let form := panel.form
  { name := trim form.name
    backend := form.backend
    deployType := form.deployType
    version := emptyToNull form.version
    baseUrl := none
    healthUrl := none
    endpointUrl := none
    binaryPath := emptyToNull form.binaryPath
    dockerImage :=
      if form.deployType = "docker" then emptyToNull (textOr panel.dockerRt.image "")
      else emptyToNull form.dockerImage
    workingDir := emptyToNull form.workingDir
    logDir := emptyToNull form.logDir
    enabled := form.enabled
    paramsJson := currentRuntimeParamsJson panel }

def submit (conversions : Conversions) (panel : RuntimePanel) : Except String RuntimePayload :=
  if panel.running ≠ [] then
    .error ("运行环境正在被运行中的实例 " ++ String.intercalate ", " (panel.running.map RuntimeUse.name)
      ++ " 使用，不能修改。请先停止实例。")
  else
    match validateForm conversions panel with
    | some message => .error message
    | none => .ok panel.payload

end RuntimePanel

end LightAI.Web
