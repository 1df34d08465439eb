import LightAI.Web.FormFields

/-!
# The parameters of a container's runtime environment in the web panel

The panel keeps the parameters of a runtime environment for containers field by field, with toggles for the ones
that are written only on demand. Reading falls back to the fields of a new runtime environment.
-/

namespace LightAI.Web

open JsValue FormText

structure DockerRuntimeFields where
  image : Option JsValue := some (str "vllm/vllm-openai:latest")
  gpu : Option JsValue := some (str "all")
  ipc : Option JsValue := some (str "host")
  containerPort : Option JsValue := some (num 8000)
  cacheHostPath : Option JsValue := some (str "/data/vllm-cache")
  cacheContainerPath : Option JsValue := some (str "/root/.cache/huggingface")
  defaultHost : Option JsValue := some (str "0.0.0.0")
  defaultPort : Option JsValue := some (num 8000)
  gpuMemoryUtilization : Option JsValue := some (num (1 / 2))
  maxModelLen : Option JsValue := some (num 4096)
  maxNumSeqs : Option JsValue := some (num 8)
  tensorParallelSize : Option JsValue := some (num 1)
  extraDockerArgs : String := ""
  extraBackendArgs : String := ""

def defaultDockerRuntimeFields : DockerRuntimeFields := {}

/-- The toggles of the panel. -/
structure PanelToggles where
  showCache : Bool := false
  showGpuMem : Bool := false
  showMaxModelLen : Bool := false
  showMaxNumSeqs : Bool := false
  showExtraBackend : Bool := false
  showExtraDocker : Bool := false

/-- All toggles. One that is not given, as by the panel, is off. -/
structure RuntimeToggles extends PanelToggles where
  showTensorParallelSize : Bool := false

/-- What instances get from the runtime environment unless they set it for themselves. -/
def dockerDefaults (fields : DockerRuntimeFields) (toggles : RuntimeToggles) : List (String × Option JsValue) :=
  let shown (toggle : Bool) (value : Option JsValue) (usual : ℚ) :=
    if toggle then some (orElse value (num usual)) else none
  [("host", some (orElse fields.defaultHost (str "0.0.0.0"))),
    ("port", some (orElse fields.containerPort (num 8000))),
    ("gpu_memory_utilization", shown toggles.showGpuMem fields.gpuMemoryUtilization (1 / 2)),
    ("max_model_len", shown toggles.showMaxModelLen fields.maxModelLen 4096),
    ("max_num_seqs", shown toggles.showMaxNumSeqs fields.maxNumSeqs 8),
    ("tensor_parallel_size", shown toggles.showTensorParallelSize fields.tensorParallelSize 1)]

def assembleDockerRuntimeParams (fields : DockerRuntimeFields) (backend : String) (toggles : RuntimeToggles)
    (extraBackendText extraDockerText : String) : List (String × Option JsValue) :=
  [("backend", some (str backend)),
    ("deploy_type", some (str "docker")),
    ("image", some (orElse fields.image (str "vllm/vllm-openai:latest"))),
    ("container_port", some (orElse fields.containerPort (num 8000))),
    ("gpu", some (orElse fields.gpu (str "all"))),
    ("ipc", some (orElse fields.ipc (str "host"))),
    ("defaults", some (record (dockerDefaults fields toggles))),
    ("cache_host_path", if toggles.showCache then some (orElse fields.cacheHostPath (str "")) else none),
    ("cache_container_path",
      if toggles.showCache then some (orElse fields.cacheContainerPath (str "")) else none),
    ("extra_backend_args",
      if toggles.showExtraBackend then some (texts (linesToArgs extraBackendText)) else none),
    ("extra_docker_args", if toggles.showExtraDocker then some (texts (linesToArgs extraDockerText)) else none)]

/-- The text of a list of arguments. What is neither an array nor empty cannot be joined, and the call fails. -/
def argsToLines (conversions : Conversions) (args : JsValue) : Option String :=
  if args.truthy = false then some ""
  else
    match args with
    | arr items => some (Text.join (items.map (joined conversions)))
    | obj fields => if (get (some (obj fields)) "length").bind asNumber = some 0 then some "" else none
    | _ => none

def parseDockerRuntimeParams (conversions : Conversions) (paramsJson : JsonText) : DockerRuntimeFields :=
  match paramsJson.readable with
  | none => defaultDockerRuntimeFields
  | some params =>
      let field := get (some params)
      let given := get (field "defaults")
      let containerPort := orElse (field "container_port") (orElse (given "port") (num 8000))
      match argsToLines conversions (orElse (field "extra_docker_args") (arr [])),
          argsToLines conversions (orElse (field "extra_backend_args") (arr [])) with
      | some extraDockerArgs, some extraBackendArgs =>
          { image := some (orElse (field "image") (str "vllm/vllm-openai:latest"))
            gpu := some (orElse (field "gpu") (str "all"))
            ipc := some (orElse (field "ipc") (str "host"))
            containerPort := some containerPort
            cacheHostPath := some (orElse (field "cache_host_path") (str "/data/vllm-cache"))
            cacheContainerPath := some (orElse (field "cache_container_path") (str "/root/.cache/huggingface"))
            defaultHost := some (str "0.0.0.0")
            defaultPort := some containerPort
            gpuMemoryUtilization := some (coalesce (given "gpu_memory_utilization") (num (1 / 2)))
            maxModelLen := some (coalesce (given "max_model_len") (num 4096))
            maxNumSeqs := some (coalesce (given "max_num_seqs") (num 8))
            tensorParallelSize := some (coalesce (given "tensor_parallel_size") (num 1))
            extraDockerArgs := extraDockerArgs
            extraBackendArgs := extraBackendArgs }
      | _, _ => defaultDockerRuntimeFields

end LightAI.Web
