import LightAI.Web.FormFields

/-!
# The parameters of an instance in the web panel

The form of an instance keeps its parameters field by field, and lists of arguments as texts with a line an
argument. What is written from it depends on where the instance runs: a local program, a container or Ollama.
Reading fills in a value for every field, whether it was written or not.
-/

namespace LightAI.Web

open JsValue FormText

/-- What a runtime environment gives the instances that run in it. -/
structure DockerRuntimeDefaults where
  containerPort : ℚ := 8000
  gpu : String := "all"
  gpuMemoryUtilization : JsValue := num (1 / 2)
  maxModelLen : JsValue := num 4096
  maxNumSeqs : JsValue := num 8
  tensorParallelSize : JsValue := num 1
  extraDockerArgs : List JsValue := []
  extraBackendArgs : List JsValue := []

def parseRuntimeDefaults (runtimeParamsJson : JsonText) : DockerRuntimeDefaults :=
  match runtimeParamsJson.readable with
  | none => {}
  | some params =>
      let defaults := get (some params) "defaults"
      { containerPort := numberOr (get (some params) "container_port") 8000
        gpu := textOr (get (some params) "gpu") "all"
        gpuMemoryUtilization := coalesce (get defaults "gpu_memory_utilization") (num (1 / 2))
        maxModelLen := coalesce (get defaults "max_model_len") (num 4096)
        maxNumSeqs := coalesce (get defaults "max_num_seqs") (num 8)
        tensorParallelSize := coalesce (get defaults "tensor_parallel_size") (num 1)
        extraDockerArgs := ((get (some params) "extra_docker_args").bind asArray).getD []
        extraBackendArgs := ((get (some params) "extra_backend_args").bind asArray).getD [] }

/-- What an instance can set for itself. -/
inductive Override where
  | gpu
  | gpuMemoryUtilization
  | maxModelLen
  | maxNumSeqs
  | tensorParallelSize
  | ollamaModel
  | ollamaKeepAlive
  | extraDockerArgs
  | extraBackendArgs
  | containerPort
deriving DecidableEq

/-- The set of what an instance sets for itself. -/
abbrev Overrides := Override → Bool

def detectOverrides (instanceParamsJson : JsonText) : Overrides :=
  let params := instanceParamsJson.readable
  fun
    | .gpu => (get params "gpu").isSome
    | .gpuMemoryUtilization => (get params "gpu_memory_utilization").isSome
    | .maxModelLen => (get params "max_model_len").isSome
    | .maxNumSeqs => (get params "max_num_seqs").isSome
    | .tensorParallelSize => (get params "tensor_parallel_size").isSome
    | .ollamaModel => textOr (get params "ollama_model") "" ≠ ""
    | .ollamaKeepAlive => textOr (get params "keep_alive") "" ≠ ""
    | .extraDockerArgs => !(((get params "extra_docker_args").bind asArray).getD []).isEmpty
    | .extraBackendArgs => !(((get params "extra_backend_args").bind asArray).getD []).isEmpty
    | .containerPort => ((get params "container_port").bind asNumber).isSome

/-- The form, which starts out with the values of an empty one. A number input holds no number when it has been
cleared, and whatever a runtime environment has for the field when its defaults have been taken over. -/
structure InstanceForm where
  modelId : String := ""
  modelFileId : String := ""
  nodeId : String := ""
  runtimeEnvironmentId : String := ""
  name : String := ""
  deployType : String := "external"
  backend : String := ""
  modelName : String := ""
  runtimeVersion : String := ""
  baseUrl : String := ""
  endpointUrl : String := ""
  healthUrl : String := ""
  description : String := ""
  host : String := "127.0.0.1"
  port : Option JsValue := some (num 8080)
  ctxSize : Option JsValue := some (num 4096)
  gpuLayers : Option JsValue := some (num (-1))
  threads : Option JsValue := some (num 0)
  extraArgsText : String := ""
  paramsJson : JsonText := .absent
  containerName : String := ""
  hostPort : Option JsValue := some (num 18000)
  containerPort : Option JsValue := some (num 8000)
  modelContainerPath : String := ""
  servedModelName : String := ""
  gpuMemoryUtilization : Option JsValue := some (num (1 / 2))
  maxModelLen : Option JsValue := some (num 4096)
  maxNumSeqs : Option JsValue := some (num 8)
  dockerGpu : String := "all"
  tensorParallelSize : Option JsValue := some (num 1)
  extraDockerArgsText : String := ""
  extraBackendArgsText : String := ""
  probePathsText : String := ""
  probeMaxAttempts : Option JsValue := some (num 5)
  probeIntervalMs : Option JsValue := some (num 5000)
  probeTimeoutMs : Option JsValue := some (num 400)
  ollamaModel : String := ""
  ollamaKeepAlive : String := ""

def emptyForm : InstanceForm := {}

def buildOllamaParams (form : InstanceForm) : List (String × Option JsValue) :=
  [("ollama_model", some (str (trim form.ollamaModel))), ("keep_alive", nonBlank form.ollamaKeepAlive)]

/-- The fields that are written for a local program. -/
def programParams (conversions : Conversions) (form : InstanceForm) : List (String × Option JsValue) :=
  [("host", some (orElse (some (str (trim form.host))) (str "127.0.0.1"))),
    ("port", form.port),
    ("ctx_size", form.ctxSize.filter truthy),
    ("gpu_layers", if atLeast conversions form.gpuLayers 0 then form.gpuLayers else none),
    ("threads", form.threads.filter truthy),
    ("extra_args", some (texts (linesToArgs form.extraArgsText))),
    ("probe_paths", nonEmptyArgs form.probePathsText),
    ("probe_max_attempts", unusual form.probeMaxAttempts 5),
    ("probe_interval_ms", unusual form.probeIntervalMs 5000),
    ("probe_timeout_ms", unusual form.probeTimeoutMs 400)]

def localParams (conversions : Conversions) (form : InstanceForm) : List (String × Option JsValue) :=
  if form.backend = "ollama" then buildOllamaParams form else programParams conversions form

/-- Only what the instance sets for itself is written, and what an instance has in any case. -/
def buildDockerInstanceParams (form : InstanceForm) (overrides : Overrides) : List (String × Option JsValue) :=
  let overridden (field : Override) (value : Option JsValue) := if overrides field then value else none
  [("container_name", nonBlank form.containerName),
    ("host_port", form.hostPort.filter truthy),
    ("model_container_path", nonBlank form.modelContainerPath),
    ("served_model_name", nonBlank form.servedModelName),
    ("gpu", overridden .gpu (nonBlank form.dockerGpu)),
    ("gpu_memory_utilization", overridden .gpuMemoryUtilization form.gpuMemoryUtilization),
    ("max_model_len", overridden .maxModelLen form.maxModelLen),
    ("max_num_seqs", overridden .maxNumSeqs form.maxNumSeqs),
    ("tensor_parallel_size", overridden .tensorParallelSize form.tensorParallelSize),
    ("container_port", overridden .containerPort form.containerPort),
    ("extra_docker_args", overridden .extraDockerArgs (nonEmptyArgs form.extraDockerArgsText)),
    ("extra_backend_args", overridden .extraBackendArgs (nonEmptyArgs form.extraBackendArgsText))]

/-- The parameters as they are read. The values they start out with stand for what cannot be read. -/
structure ParsedParams where
  host : String := "127.0.0.1"
  port : ℚ := 8080
  ctxSize : ℚ := 4096
  gpuLayers : ℚ := -1
  threads : ℚ := 0
  extraArgs : List String := []
  containerName : String := ""
  hostPort : ℚ := 18000
  containerPort : ℚ := 8000
  modelContainerPath : String := ""
  servedModelName : String := ""
  gpuMemoryUtilization : ℚ := 1 / 2
  maxModelLen : ℚ := 4096
  maxNumSeqs : ℚ := 8
  dockerGpu : String := "all"
  tensorParallelSize : ℚ := 1
  extraDockerArgs : List String := []
  extraBackendArgsText : String := ""
  extraDockerArgsText : String := ""
  probePathsText : String := ""
  probeMaxAttempts : ℚ := 5
  probeIntervalMs : ℚ := 5000
  probeTimeoutMs : ℚ := 400
  ollamaModel : String := ""
  ollamaKeepAlive : String := ""

def parseParams (value : JsonText) : ParsedParams :=
  match value.readable with
  | none => {}
  | some parsed =>
      let field := get (some parsed)
      { host := textOr (field "host") "127.0.0.1"
        port := numberOr (field "port") 8080
        ctxSize := numberOr (field "ctx_size") 4096
        gpuLayers := numberOr (field "gpu_layers") (-1)
        threads := numberOr (field "threads") 0
        extraArgs := textsOf (field "extra_args")
        containerName := textOr (field "container_name") ""
        hostPort := numberOr (field "host_port") 18000
        containerPort := numberOr (field "container_port") 8000
        modelContainerPath := textOr (field "model_container_path") ""
        servedModelName := textOr (field "served_model_name") ""
        gpuMemoryUtilization := numberOr (field "gpu_memory_utilization") (1 / 2)
        maxModelLen := numberOr (field "max_model_len") 4096
        maxNumSeqs := numberOr (field "max_num_seqs") 8
        dockerGpu := textOr (field "gpu") "all"
        tensorParallelSize := numberOr (field "tensor_parallel_size") 1
        extraDockerArgs := textsOf (field "extra_docker_args")
        extraBackendArgsText := Text.join (textsOf (field "extra_backend_args"))
        extraDockerArgsText := Text.join (textsOf (field "extra_docker_args"))
        probePathsText := Text.join (textsOf (field "probe_paths"))
        probeMaxAttempts := numberOr (field "probe_max_attempts") 5
        probeIntervalMs := numberOr (field "probe_interval_ms") 5000
        probeTimeoutMs := numberOr (field "probe_timeout_ms") 400
        ollamaModel := textOr (field "ollama_model") ""
        ollamaKeepAlive := textOr (field "keep_alive") "" }

end LightAI.Web
