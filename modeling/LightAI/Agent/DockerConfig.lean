import LightAI.Agent.World

/-!
# The configuration of a container

A container is configured by its model, by the parameters of its runtime environment and by those of
the instance, which override them. Both sets of parameters are read from JSON: a field that is missing
has a default, and a field of the wrong type makes the whole set unreadable.
-/

namespace LightAI.Agent

/-- The parts of a URL that the agent looks at. -/
structure Url where
  scheme : String
  host : Option String
  path : String
  query : Option String

/-- The third-party functions that the agent calls. -/
structure External where
  /-- `serde_json::from_str` to a value. -/
  jsonFromStr : String → Option Json
  /-- `serde_json::from_str` to a list of values. -/
  jsonArrayFromStr : String → Except String (List Json)
  /-- `serde_json::to_string` of a list of strings. -/
  jsonStringArray : List String → String
  /-- The text of a JSON number as a 64-bit float. -/
  formatF64 : Json → String
  /-- `reqwest::Url::parse`. -/
  parseUrl : String → Option Url

/-- Parsers that accept nothing, and printers that print nothing. -/
def noExternal : External where
  jsonFromStr _ := none
  jsonArrayFromStr _ := .error ""
  jsonStringArray _ := ""
  formatF64 _ := ""
  parseUrl _ := none

/-! ### Reading a structure from JSON -/

namespace Decode

/-- A field of a structure that has a default for each of its fields. A structure is read from an
object, by the names of the field, or from an array, by its position. -/
def field {α : Type} (source : Json) (position : Nat) (names : List String) (decode : Json → Option α)
    (default : α) : Option α :=
  match source with
  | .obj fields =>
      match fields.filter (·.1 ∈ names) with
      | [] => some default
      | [(_, value)] => decode value
      | _ => none
  | .arr items =>
      match items[position]? with
      | none => some default
      | some value => decode value
  | _ => none

/-- An array must not have more items than the structure has fields. -/
def sized (source : Json) (fields : Nat) : Option Unit :=
  match source with
  | .arr items => if items.length ≤ fields then some () else none
  | _ => some ()

def unsigned (bits : Nat) : Json → Option Nat
  | .int value => if 0 ≤ value ∧ value < 2 ^ bits then some value.toNat else none
  | _ => none

/-- A number, kept as it is written. -/
def float : Json → Option Json
  | .int value => some (.int value)
  | .float text => some (.float text)
  | _ => none

def optional {α : Type} (decode : Json → Option α) : Json → Option (Option α)
  | .null => some none
  | value => (decode value).map some

def strings : Json → Option (List String)
  | .arr items => items.mapM Json.asStr
  | _ => none

end Decode

/-! ### The parameters -/

structure DockerPortMapping where
  host : Nat
  container : Nat
  deriving DecidableEq

structure DockerVolumeMapping where
  host : String
  container : String
  readonly : Bool := false
  deriving DecidableEq

structure DockerInstanceParams where
  image : String := ""
  containerName : String := ""
  gpu : String := "all"
  ipc : String := ""
  ports : List DockerPortMapping := []
  volumes : List DockerVolumeMapping := []
  env : List (String × String) := []
  extraDockerArgs : List String := []

structure VllmParams where
  model : String := ""
  servedModelName : String := ""
  host : String := "0.0.0.0"
  port : Nat := 8000
  gpuMemoryUtilization : Option Json := none
  maxModelLen : Option Nat := none
  maxNumSeqs : Option Nat := none
  tensorParallelSize : Option Nat := none
  extraVllmArgs : List String := []

structure DockerPayload where
  docker : DockerInstanceParams := {}
  vllm : VllmParams := {}

structure BackendDefaults where
  host : String := "0.0.0.0"
  port : Nat := 8000
  gpuMemoryUtilization : Option Json := some (.float "0.5")
  maxModelLen : Option Nat := some 4096
  maxNumSeqs : Option Nat := some 8
  ctxSize : Option Nat := some 4096
  nGpuLayers : Option Int := some (-1)
  tensorParallelSize : Option Nat := some 1

structure DockerRuntimeConfig where
  backend : String := ""
  deployType : String := ""
  image : String := ""
  entrypoint : String := ""
  gpu : String := "all"
  ipc : String := "host"
  containerPort : Nat := 8000
  cacheHostPath : String := ""
  cacheContainerPath : String := ""
  defaults : BackendDefaults := {}
  extraDockerArgs : List String := []
  extraBackendArgs : List String := []

structure DockerInstanceOverrides where
  containerName : String := ""
  hostPort : Nat := 0
  modelContainerPath : String := ""
  servedModelName : String := ""
  gpuMemoryUtilization : Option Json := none
  maxModelLen : Option Nat := none
  maxNumSeqs : Option Nat := none
  tensorParallelSize : Option Nat := none
  gpu : Option String := none
  containerPort : Option Nat := none
  extraDockerArgs : List String := []
  extraBackendArgs : List String := []

open Decode in
def BackendDefaults.fromJson (source : Json) : Option BackendDefaults := do
  sized source 8
  let host ← field source 0 ["host"] Json.asStr "0.0.0.0"
  let port ← field source 1 ["port"] (unsigned 16) 8000
  let gpuMemoryUtilization ←
    field source 2 ["gpu_memory_utilization"] (optional float) (some (.float "0.5"))
  let maxModelLen ← field source 3 ["max_model_len"] (optional (unsigned 32)) (some 4096)
  let maxNumSeqs ← field source 4 ["max_num_seqs"] (optional (unsigned 32)) (some 8)
  let ctxSize ← field source 5 ["ctx_size"] (optional (unsigned 32)) (some 4096)
  let nGpuLayers ← field source 6 ["n_gpu_layers"] (optional Json.asI64) (some (-1))
  let tensorParallelSize ←
    field source 7 ["tensor_parallel_size"] (optional (unsigned 32)) (some 1)
  pure { host, port, gpuMemoryUtilization, maxModelLen, maxNumSeqs, ctxSize, nGpuLayers,
         tensorParallelSize }

open Decode in
def DockerRuntimeConfig.fromJson (source : Json) : Option DockerRuntimeConfig := do
  sized source 12
  let backend ← field source 0 ["backend"] Json.asStr ""
  let deployType ← field source 1 ["deploy_type"] Json.asStr ""
  let image ← field source 2 ["image"] Json.asStr ""
  let entrypoint ← field source 3 ["entrypoint"] Json.asStr ""
  let gpu ← field source 4 ["gpu"] Json.asStr "all"
  let ipc ← field source 5 ["ipc"] Json.asStr "host"
  let containerPort ← field source 6 ["container_port"] (unsigned 16) 8000
  let cacheHostPath ← field source 7 ["cache_host_path"] Json.asStr ""
  let cacheContainerPath ← field source 8 ["cache_container_path"] Json.asStr ""
  let defaults ← field source 9 ["defaults", "vllm_defaults"] BackendDefaults.fromJson {}
  let extraDockerArgs ← field source 10 ["extra_docker_args"] strings []
  let extraBackendArgs ← field source 11 ["extra_backend_args", "extra_vllm_args"] strings []
  pure { backend, deployType, image, entrypoint, gpu, ipc, containerPort, cacheHostPath,
         cacheContainerPath, defaults, extraDockerArgs, extraBackendArgs }

open Decode in
def DockerInstanceOverrides.fromJson (source : Json) : Option DockerInstanceOverrides := do
  sized source 12
  let containerName ← field source 0 ["container_name"] Json.asStr ""
  let hostPort ← field source 1 ["host_port"] (unsigned 16) 0
  let modelContainerPath ← field source 2 ["model_container_path"] Json.asStr ""
  let servedModelName ← field source 3 ["served_model_name"] Json.asStr ""
  let gpuMemoryUtilization ← field source 4 ["gpu_memory_utilization"] (optional float) none
  let maxModelLen ← field source 5 ["max_model_len"] (optional (unsigned 32)) none
  let maxNumSeqs ← field source 6 ["max_num_seqs"] (optional (unsigned 32)) none
  let tensorParallelSize ← field source 7 ["tensor_parallel_size"] (optional (unsigned 32)) none
  let gpu ← field source 8 ["gpu"] (optional Json.asStr) none
  let containerPort ← field source 9 ["container_port"] (optional (unsigned 16)) none
  let extraDockerArgs ← field source 10 ["extra_docker_args"] strings []
  let extraBackendArgs ← field source 11 ["extra_backend_args", "extra_vllm_args"] strings []
  pure { containerName, hostPort, modelContainerPath, servedModelName, gpuMemoryUtilization,
         maxModelLen, maxNumSeqs, tensorParallelSize, gpu, containerPort, extraDockerArgs,
         extraBackendArgs }

/-! ### The three layers -/

/-- The volume in which the container keeps its cache. -/
def cacheVolumes (rt : DockerRuntimeConfig) : List DockerVolumeMapping :=
  if Text.isBlank rt.cacheHostPath || Text.isBlank rt.cacheContainerPath then []
  else [{ host := Text.trim rt.cacheHostPath, container := Text.trim rt.cacheContainerPath }]

def mergeDockerConfig (modelHostPath modelName : String) (runtime : Option DockerRuntimeConfig)
    (overrides : Option DockerInstanceOverrides) : Except String DockerPayload :=
  let rt := runtime.getD {}
  let ov := overrides.getD {}
  if Text.isBlank rt.image then .error "Docker runtime missing image config"
  else if Text.isBlank modelHostPath then .error "Model file path not configured"
  else
    let containerModel :=
      if Text.isBlank ov.modelContainerPath then
        "/models/" ++ (Text.fileName modelHostPath).getD "model"
      else Text.trim ov.modelContainerPath
    if Text.isBlank ov.servedModelName && Text.isBlank modelName then
      .error "served_model_name not configured"
    else
      let servedName :=
        if Text.isBlank ov.servedModelName then modelName else Text.trim ov.servedModelName
      -- a 16-bit sum, which wraps around in a release build
      let hostPort :=
        if ov.hostPort > 0 then ov.hostPort else (rt.containerPort + 10000) % 2 ^ 16
      .ok
        { docker :=
            { image := rt.image
              containerName := ov.containerName
              gpu := ov.gpu.getD rt.gpu
              ipc := rt.ipc
              ports := [{ host := hostPort, container := rt.containerPort }]
              volumes := cacheVolumes rt ++
                [{ host := Text.trim modelHostPath, container := containerModel, readonly := true }]
              extraDockerArgs := rt.extraDockerArgs ++ ov.extraDockerArgs }
          vllm :=
            { model := containerModel
              servedModelName := servedName
              host := rt.defaults.host
              port := rt.defaults.port
              gpuMemoryUtilization := ov.gpuMemoryUtilization.or rt.defaults.gpuMemoryUtilization
              maxModelLen := ov.maxModelLen.or rt.defaults.maxModelLen
              maxNumSeqs := ov.maxNumSeqs.or rt.defaults.maxNumSeqs
              tensorParallelSize := ov.tensorParallelSize.or rt.defaults.tensorParallelSize
              extraVllmArgs := rt.extraBackendArgs ++ ov.extraBackendArgs } }

/-- A value that may be given as the text of its JSON. -/
def jsonOrText (deps : External) (value : Json) : Json :=
  match value.asStr with
  | some text => (deps.jsonFromStr text).getD .null
  | none => value

def payloadRuntimeConfig (deps : External) (payload : Json) : Option DockerRuntimeConfig :=
  ((payload.get? "runtime_params").or (payload.get? "runtime_config")).bind fun value =>
    DockerRuntimeConfig.fromJson (jsonOrText deps value)

def payloadOverrides (deps : External) (payload : Json) : Option DockerInstanceOverrides :=
  (payload.get? "params_json").bind fun value =>
    DockerInstanceOverrides.fromJson (jsonOrText deps value)

/-- The configuration of a start. Where the layers cannot be merged it is the default one, which has
no image. -/
def resolveDockerPayload (deps : External) (payload : Json) : DockerPayload :=
  let runtimeCfg := payloadRuntimeConfig deps payload
  let overrides := payloadOverrides deps payload
  if runtimeCfg.isSome || overrides.isSome then
    match mergeDockerConfig ((payload.getStr "model_path").getD "")
        ((payload.getStr "model_name").getD "") runtimeCfg overrides with
    | .ok merged => merged
    | .error _ => {}
  else {}

/-! ### The arguments of `docker run` -/

def validateDockerArg (arg : String) : Except String Unit :=
  if Text.isBlank arg then .error "Docker extra args must not be empty"
  else if arg.utf8ByteSize > 512 || arg.toList.any Text.isControl then
    .error "Docker extra args contain invalid characters"
  else .ok ()

/-- An option with its value, unless the value is blank. -/
def optionArgs (option value : String) : List String :=
  if Text.isBlank value then [] else [option, Text.trim value]

def portArgs (port : DockerPortMapping) : List String :=
  ["-p", toString port.host ++ ":" ++ toString port.container]

def volumeArgs (volume : DockerVolumeMapping) : List String :=
  ["-v", Text.trim volume.host ++ ":" ++ Text.trim volume.container ++
    if volume.readonly then ":ro" else ""]

def buildDockerRunArgs (payload : DockerPayload) : Except String (List String) :=
  let docker := payload.docker
  if Text.isBlank docker.image then .error "Docker image not configured"
  else do
    docker.extraDockerArgs.forM validateDockerArg
    .ok (["run"] ++ optionArgs "--name" docker.containerName ++ optionArgs "--gpus" docker.gpu
      ++ optionArgs "--ipc" docker.ipc ++ docker.ports.flatMap portArgs
      ++ docker.volumes.flatMap volumeArgs
      ++ docker.env.flatMap (fun entry => ["-e", entry.1 ++ "=" ++ entry.2])
      ++ docker.extraDockerArgs ++ ["--detach", Text.trim docker.image])

/-- An option with the text of its value, when there is one. -/
def valueArgs {α : Type} (option : String) (text : α → String) : Option α → List String
  | none => []
  | some value => [option, text value]

def buildVllmArgs (deps : External) (payload : DockerPayload) : List String :=
  let vllm := payload.vllm
  optionArgs "--model" vllm.model ++ optionArgs "--served-model-name" vllm.servedModelName
    ++ optionArgs "--host" vllm.host
    ++ (if vllm.port > 0 then ["--port", toString vllm.port] else [])
    ++ valueArgs "--gpu-memory-utilization" deps.formatF64 vllm.gpuMemoryUtilization
    ++ valueArgs "--max-model-len" toString vllm.maxModelLen
    ++ valueArgs "--max-num-seqs" toString vllm.maxNumSeqs
    ++ valueArgs "--tensor-parallel-size" toString (vllm.tensorParallelSize.filter (· > 0))
    ++ vllm.extraVllmArgs

def sanitizeDockerArg (arg : String) : String :=
  let lower := Text.toAsciiLowercase arg
  if ["token", "secret", "password", "api-key", "api_key", "authorization"].any
      (Text.contains lower) then
    "[redacted]"
  else arg

def dockerCommandSummary (deps : External) (image : String) (dockerArgs vllmArgs : List String) :
    String :=
  deps.jsonStringArray
    (["docker"] ++ dockerArgs.map sanitizeDockerArg ++ [image] ++ vllmArgs.map sanitizeDockerArg)

end LightAI.Agent
