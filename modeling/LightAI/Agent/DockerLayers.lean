import LightAI.Agent.DockerCommand

/-!
# The layers of a container's configuration

A setting of the container stands on one of the two command lines. What the parameters of the instance set
comes before what the parameters of the runtime environment say, or before what the model gives. The port
inside the container is the exception: that of the runtime environment is taken whatever the instance sets.
-/

namespace LightAI.Agent

open CommandLine (Options arguments values repeated pairs)

/-! ### The merged configuration -/

section Merged

variable (modelHostPath modelName : String) (rt : DockerRuntimeConfig) (ov : DockerInstanceOverrides)

/-- Where the model stands in the container unless the instance says. -/
def defaultModelPath : String := "/models/" ++ (Text.fileName modelHostPath).getD "model"

def containerModel : String :=
  if Text.isBlank ov.modelContainerPath then defaultModelPath modelHostPath
  else Text.trim ov.modelContainerPath

/-- The port of the node unless the instance says: a 16-bit sum, which wraps around. -/
def defaultHostPort : Nat := (rt.containerPort + 10000) % 2 ^ 16

def hostPort : Nat := if ov.hostPort > 0 then ov.hostPort else defaultHostPort rt

def mergedDocker : DockerInstanceParams :=
  { image := rt.image
    containerName := ov.containerName
    gpu := ov.gpu.getD rt.gpu
    ipc := rt.ipc
    ports := [{ host := hostPort rt ov, container := rt.containerPort }]
    volumes := cacheVolumes rt ++
      [{ host := Text.trim modelHostPath, container := containerModel modelHostPath ov
         readonly := true }]
    extraDockerArgs := rt.extraDockerArgs ++ ov.extraDockerArgs }

def mergedVllm : VllmParams :=
  { model := containerModel modelHostPath ov
    servedModelName :=
      if Text.isBlank ov.servedModelName then modelName else Text.trim ov.servedModelName
    host := rt.defaults.host
    port := rt.defaults.port
    gpuMemoryUtilization := ov.gpuMemoryUtilization.or rt.defaults.gpuMemoryUtilization
    maxModelLen := ov.maxModelLen.or rt.defaults.maxModelLen
    maxNumSeqs := ov.maxNumSeqs.or rt.defaults.maxNumSeqs
    tensorParallelSize := ov.tensorParallelSize.or rt.defaults.tensorParallelSize
    extraVllmArgs := rt.extraBackendArgs ++ ov.extraBackendArgs }

end Merged

theorem image_of_merge {modelHostPath modelName : String} {runtime : Option DockerRuntimeConfig}
    {overrides : Option DockerInstanceOverrides} {merged : DockerPayload}
    (h : mergeDockerConfig modelHostPath modelName runtime overrides = .ok merged) :
    Text.isBlank (runtime.getD {}).image = false := by
  by_contra himage
  have hblank : Text.isBlank (runtime.getD {}).image = true := by simpa using himage
  unfold mergeDockerConfig at h
  dsimp only at h
  rw [hblank] at h
  cases h

theorem mergeDockerConfig_ok {modelHostPath modelName : String} {runtime : Option DockerRuntimeConfig}
    {overrides : Option DockerInstanceOverrides} {merged : DockerPayload}
    (h : mergeDockerConfig modelHostPath modelName runtime overrides = .ok merged) :
    merged.docker = mergedDocker modelHostPath (runtime.getD {}) (overrides.getD {}) ∧
      merged.vllm = mergedVllm modelHostPath modelName (runtime.getD {}) (overrides.getD {}) := by
  unfold mergeDockerConfig at h
  dsimp only at h
  cases himage : Text.isBlank (runtime.getD {}).image with
  | true =>
      rw [himage] at h
      cases h
  | false =>
      cases hpath : Text.isBlank modelHostPath with
      | true =>
          rw [himage, hpath] at h
          cases h
      | false =>
          cases hname : Text.isBlank (overrides.getD {}).servedModelName && Text.isBlank modelName with
          | true =>
              rw [himage, hpath, hname] at h
              cases h
          | false =>
              rw [himage, hpath, hname] at h
              rw [← Except.ok.inj h]
              exact ⟨rfl, rfl⟩

/-! ### The settings -/

inductive Setting where
  | containerName
  | hostPort
  | modelContainerPath
  | servedModelName
  | gpu
  | containerPort
  | gpuMemoryUtilization
  | maxModelLen
  | maxNumSeqs
  | tensorParallelSize
  deriving DecidableEq

/-- What the instance sets, as it would stand on a command line. -/
def DockerInstanceOverrides.value (deps : External) (ov : DockerInstanceOverrides) :
    Setting → Option String
  | .containerName => textValue ov.containerName
  | .hostPort => if ov.hostPort > 0 then some (toString ov.hostPort) else none
  | .modelContainerPath => textValue ov.modelContainerPath
  | .servedModelName => textValue ov.servedModelName
  | .gpu => ov.gpu.bind textValue
  | .containerPort => (ov.containerPort.filter (· > 0)).map toString
  | .gpuMemoryUtilization => ov.gpuMemoryUtilization.map deps.formatF64
  | .maxModelLen => ov.maxModelLen.map toString
  | .maxNumSeqs => ov.maxNumSeqs.map toString
  | .tensorParallelSize => (ov.tensorParallelSize.filter (· > 0)).map toString

/-- The instance leaves the setting to the runtime environment. -/
def DockerInstanceOverrides.Leaves (ov : DockerInstanceOverrides) : Setting → Prop
  | .containerName => Text.isBlank ov.containerName = true
  | .hostPort => ov.hostPort = 0
  | .modelContainerPath => Text.isBlank ov.modelContainerPath = true
  | .servedModelName => Text.isBlank ov.servedModelName = true
  | .gpu => ov.gpu = none
  | .containerPort => ov.containerPort = none
  | .gpuMemoryUtilization => ov.gpuMemoryUtilization = none
  | .maxModelLen => ov.maxModelLen = none
  | .maxNumSeqs => ov.maxNumSeqs = none
  | .tensorParallelSize => ov.tensorParallelSize = none

/-- What stands on a command line when the instance does not say. -/
def runtimeValue (deps : External) (modelHostPath modelName : String) (rt : DockerRuntimeConfig) :
    Setting → Option String
  | .containerName => none
  | .hostPort => some (toString (defaultHostPort rt))
  | .modelContainerPath => textValue (defaultModelPath modelHostPath)
  | .servedModelName => textValue modelName
  | .gpu => textValue rt.gpu
  | .containerPort => some (toString rt.containerPort)
  | .gpuMemoryUtilization => rt.defaults.gpuMemoryUtilization.map deps.formatF64
  | .maxModelLen => rt.defaults.maxModelLen.map toString
  | .maxNumSeqs => rt.defaults.maxNumSeqs.map toString
  | .tensorParallelSize => (rt.defaults.tensorParallelSize.filter (· > 0)).map toString

/-- The command lines give the setting this value. -/
def Shows (docker vllm : Options) (value : Option String) : Setting → Prop
  | .containerName => values "--name" docker = value.toList
  | .hostPort => ∃ host container : Nat,
      values "-p" docker = [toString host ++ ":" ++ toString container] ∧ value = some (toString host)
  | .modelContainerPath => values "--model" vllm = value.toList ∧
      ∃ container volumes host, value = some container ∧
        values "-v" docker = volumes ++ [host ++ ":" ++ container ++ ":ro"]
  | .servedModelName => values "--served-model-name" vllm = value.toList
  | .gpu => values "--gpus" docker = value.toList
  | .containerPort => ∃ host container : Nat,
      values "-p" docker = [toString host ++ ":" ++ toString container] ∧
        value = some (toString container)
  | .gpuMemoryUtilization => values "--gpu-memory-utilization" vllm = value.toList
  | .maxModelLen => values "--max-model-len" vllm = value.toList
  | .maxNumSeqs => values "--max-num-seqs" vllm = value.toList
  | .tensorParallelSize => values "--tensor-parallel-size" vllm = value.toList

/-! ### What the merged configuration shows -/

section Shown

variable (deps : External) (modelHostPath modelName : String) (rt : DockerRuntimeConfig)
  (ov : DockerInstanceOverrides)

def mergedValue : Setting → Option String
  | .containerName => textValue ov.containerName
  | .hostPort => some (toString (hostPort rt ov))
  | .modelContainerPath => textValue (containerModel modelHostPath ov)
  | .servedModelName =>
      textValue (if Text.isBlank ov.servedModelName then modelName else Text.trim ov.servedModelName)
  | .gpu => textValue (ov.gpu.getD rt.gpu)
  | .containerPort => some (toString rt.containerPort)
  | .gpuMemoryUtilization =>
      (ov.gpuMemoryUtilization.or rt.defaults.gpuMemoryUtilization).map deps.formatF64
  | .maxModelLen => (ov.maxModelLen.or rt.defaults.maxModelLen).map toString
  | .maxNumSeqs => (ov.maxNumSeqs.or rt.defaults.maxNumSeqs).map toString
  | .tensorParallelSize =>
      ((ov.tensorParallelSize.or rt.defaults.tensorParallelSize).filter (· > 0)).map toString

theorem isBlank_defaultModelPath : Text.isBlank (defaultModelPath modelHostPath) = false := by
  unfold Text.isBlank defaultModelPath
  rw [String.toList_append, List.all_append]
  have hslash : "/models/".toList.all Text.isWhitespace = false := by decide
  rw [hslash, Bool.false_and]

/-- The model stands somewhere in the container. -/
theorem isBlank_containerModel : Text.isBlank (containerModel modelHostPath ov) = false := by
  unfold containerModel
  by_cases hblank : Text.isBlank ov.modelContainerPath = true
  · rw [if_pos hblank]
    exact isBlank_defaultModelPath modelHostPath
  · rw [if_neg hblank, Text.isBlank_trim]
    exact Bool.not_eq_true _ ▸ hblank

/-- The volumes end with that of the model. -/
theorem values_volume_merged :
    values "-v" (dockerOptions (mergedDocker modelHostPath rt ov))
      = (cacheVolumes rt).map volumeText
        ++ [Text.trim modelHostPath ++ ":" ++ Text.trim (containerModel modelHostPath ov) ++ ":ro"] := by
  rw [values_volume]
  unfold mergedDocker
  rw [List.map_append, List.map_singleton]
  have htext : volumeText { host := Text.trim modelHostPath
                            container := containerModel modelHostPath ov, readonly := true }
      = Text.trim modelHostPath ++ ":" ++ Text.trim (containerModel modelHostPath ov) ++ ":ro" := by
    unfold volumeText
    rw [Text.trim_trim]
    rfl
  rw [htext]

theorem values_model_merged :
    values "--model" (vllmOptions deps (mergedVllm modelHostPath modelName rt ov))
      = [Text.trim (containerModel modelHostPath ov)] := by
  rw [values_model]
  unfold mergedVllm
  rw [textValue_of_notBlank (isBlank_containerModel modelHostPath ov)]
  rfl

theorem values_publish_merged :
    values "-p" (dockerOptions (mergedDocker modelHostPath rt ov))
      = [toString (hostPort rt ov) ++ ":" ++ toString rt.containerPort] := by
  rw [values_publish]
  rfl

theorem shows_merged (setting : Setting) :
    Shows (dockerOptions (mergedDocker modelHostPath rt ov))
      (vllmOptions deps (mergedVllm modelHostPath modelName rt ov))
      (mergedValue deps modelHostPath modelName rt ov setting) setting := by
  have hmodel : textValue (containerModel modelHostPath ov)
      = some (Text.trim (containerModel modelHostPath ov)) :=
    textValue_of_notBlank (isBlank_containerModel modelHostPath ov)
  cases setting with
  | hostPort => exact ⟨_, _, values_publish_merged modelHostPath rt ov, rfl⟩
  | containerPort => exact ⟨_, _, values_publish_merged modelHostPath rt ov, rfl⟩
  | modelContainerPath =>
      refine ⟨?_, _, _, _, hmodel, values_volume_merged modelHostPath rt ov⟩
      rw [values_model_merged, mergedValue, hmodel]
      rfl
  | _ => simp [Shows, dockerOptions, vllmOptions, mergedDocker, mergedVllm, mergedValue]

variable {deps modelHostPath modelName rt ov} {setting : Setting}

theorem notBlank_of_textValue {text value : String} (h : textValue text = some value) :
    Text.isBlank text = false := by
  by_contra hblank
  rw [textValue_of_blank (Bool.not_eq_false _ ▸ hblank)] at h
  cases h

/-- What the instance sets comes first. -/
theorem mergedValue_of_set {value : String} (hother : setting ≠ .containerPort)
    (hset : ov.value deps setting = some value) :
    mergedValue deps modelHostPath modelName rt ov setting = some value := by
  cases setting with
  | containerName => exact hset
  | hostPort =>
      by_cases hpos : ov.hostPort > 0
      · have htext : some (toString ov.hostPort) = some value := by
          simpa only [DockerInstanceOverrides.value, if_pos hpos] using hset
        rw [mergedValue, hostPort, if_pos hpos, htext]
      · simp only [DockerInstanceOverrides.value, if_neg hpos] at hset
        cases hset
  | modelContainerPath =>
      have hblank := notBlank_of_textValue hset
      rw [mergedValue, containerModel, hblank, if_neg Bool.false_ne_true, textValue_trim]
      exact hset
  | servedModelName =>
      have hblank := notBlank_of_textValue hset
      rw [mergedValue, hblank, if_neg Bool.false_ne_true, textValue_trim]
      exact hset
  | gpu =>
      cases hgpu : ov.gpu with
      | none =>
          rw [DockerInstanceOverrides.value, hgpu] at hset
          cases hset
      | some gpu =>
          rw [DockerInstanceOverrides.value, hgpu] at hset
          rw [mergedValue, hgpu]
          exact hset
  | containerPort => exact absurd rfl hother
  | gpuMemoryUtilization =>
      obtain ⟨number, hnumber, htext⟩ := Option.map_eq_some_iff.mp hset
      rw [mergedValue, hnumber, ← htext]
      rfl
  | maxModelLen =>
      obtain ⟨number, hnumber, htext⟩ := Option.map_eq_some_iff.mp hset
      rw [mergedValue, hnumber, ← htext]
      rfl
  | maxNumSeqs =>
      obtain ⟨number, hnumber, htext⟩ := Option.map_eq_some_iff.mp hset
      rw [mergedValue, hnumber, ← htext]
      rfl
  | tensorParallelSize =>
      obtain ⟨number, hfilter, htext⟩ := Option.map_eq_some_iff.mp hset
      have hnumber := Option.eq_some_of_filter_eq_some hfilter
      rw [hnumber] at hfilter
      rw [mergedValue, hnumber, ← htext, Option.some_or, hfilter]
      rfl

/-- What the instance leaves is as the runtime environment or the model has it. -/
theorem mergedValue_of_leaves (hleaves : ov.Leaves setting) :
    mergedValue deps modelHostPath modelName rt ov setting
      = runtimeValue deps modelHostPath modelName rt setting := by
  cases setting with
  | containerName => exact textValue_of_blank hleaves
  | hostPort =>
      have hzero : ov.hostPort = 0 := hleaves
      rw [mergedValue, hostPort, hzero]
      rfl
  | modelContainerPath =>
      have hblank : Text.isBlank ov.modelContainerPath = true := hleaves
      rw [mergedValue, containerModel, if_pos hblank]
      rfl
  | servedModelName =>
      have hblank : Text.isBlank ov.servedModelName = true := hleaves
      rw [mergedValue, if_pos hblank]
      rfl
  | gpu =>
      have hnone : ov.gpu = none := hleaves
      rw [mergedValue, hnone]
      rfl
  | containerPort => rfl
  | gpuMemoryUtilization =>
      have hnone : ov.gpuMemoryUtilization = none := hleaves
      rw [mergedValue, hnone, Option.none_or]
      rfl
  | maxModelLen =>
      have hnone : ov.maxModelLen = none := hleaves
      rw [mergedValue, hnone, Option.none_or]
      rfl
  | maxNumSeqs =>
      have hnone : ov.maxNumSeqs = none := hleaves
      rw [mergedValue, hnone, Option.none_or]
      rfl
  | tensorParallelSize =>
      have hnone : ov.tensorParallelSize = none := hleaves
      rw [mergedValue, hnone, Option.none_or]
      rfl

end Shown

/-! ### The theorem -/

/-- The command lines of a container, as options followed by the extra arguments of both layers. -/
structure Carried (deps : External) (modelHostPath modelName : String) (rt : DockerRuntimeConfig)
    (ov : DockerInstanceOverrides) (dockerArgs vllmArgs : List String) (docker vllm : Options) :
    Prop where
  dockerArgs : dockerArgs = "run" :: (arguments docker ++ (rt.extraDockerArgs ++ ov.extraDockerArgs)
    ++ ["--detach", Text.trim rt.image])
  vllmArgs : vllmArgs = arguments vllm ++ (rt.extraBackendArgs ++ ov.extraBackendArgs)
  set : ∀ setting ≠ Setting.containerPort, ∀ value, ov.value deps setting = some value →
    Shows docker vllm (some value) setting
  left : ∀ setting, ov.Leaves setting →
    Shows docker vllm (runtimeValue deps modelHostPath modelName rt setting) setting
  containerPort : Shows docker vllm (some (toString rt.containerPort)) .containerPort

theorem overrides_carried (deps : External) {modelHostPath modelName : String}
    {runtime : Option DockerRuntimeConfig} {overrides : Option DockerInstanceOverrides}
    {merged : DockerPayload} {dockerArgs : List String}
    (hmerge : mergeDockerConfig modelHostPath modelName runtime overrides = .ok merged)
    (hargs : buildDockerRunArgs merged = .ok dockerArgs) :
    ∃ docker vllm, Carried deps modelHostPath modelName (runtime.getD {}) (overrides.getD {})
      dockerArgs (buildVllmArgs deps merged) docker vllm := by
  obtain ⟨hdocker, hvllm⟩ := mergeDockerConfig_ok hmerge
  obtain ⟨-, -, hbuilt⟩ := buildDockerRunArgs_eq_ok_iff.mp hargs
  have hshows := shows_merged deps modelHostPath modelName (runtime.getD {}) (overrides.getD {})
  refine ⟨dockerOptions merged.docker, vllmOptions deps merged.vllm, ?_⟩
  rw [hdocker] at hbuilt
  rw [hdocker, hvllm]
  refine ⟨hbuilt, ?_, fun setting hother value hset => ?_, fun setting hleaves => ?_, ?_⟩
  · rw [buildVllmArgs_eq, hvllm]
    rfl
  · rw [← mergedValue_of_set hother hset]
    exact hshows setting
  · rw [← mergedValue_of_leaves hleaves]
    exact hshows setting
  · exact hshows .containerPort

/-! ### Two instances -/

/-- Every setting but the port inside the container is set. -/
def fullOverrides : DockerInstanceOverrides :=
  { containerName := " chat "
    hostPort := 9001
    modelContainerPath := "/m"
    servedModelName := "qwen-chat"
    gpuMemoryUtilization := some (.float "0.9")
    maxModelLen := some 8192
    maxNumSeqs := some 4
    tensorParallelSize := some 2
    gpu := some "0"
    extraDockerArgs := ["--init"]
    extraBackendArgs := ["--trust-remote-code"] }

theorem fullOverrides_carried : ∃ merged dockerArgs docker vllm,
    mergeDockerConfig "/data/qwen" "qwen" (some { image := "vllm" }) (some fullOverrides)
      = .ok merged ∧
    buildDockerRunArgs merged = .ok dockerArgs ∧
    Carried noExternal "/data/qwen" "qwen" { image := "vllm" } fullOverrides dockerArgs
      (buildVllmArgs noExternal merged) docker vllm := by
  have hmerge : ∃ merged, mergeDockerConfig "/data/qwen" "qwen" (some { image := "vllm" })
      (some fullOverrides) = .ok merged := ⟨_, rfl⟩
  obtain ⟨merged, hmerged⟩ := hmerge
  have hbuild : ∃ dockerArgs, buildDockerRunArgs merged = .ok dockerArgs := by
    rw [← Except.ok.inj hmerged]
    exact ⟨_, rfl⟩
  obtain ⟨dockerArgs, hargs⟩ := hbuild
  obtain ⟨docker, vllm, hcarried⟩ := overrides_carried noExternal hmerged hargs
  exact ⟨merged, dockerArgs, docker, vllm, hmerged, hargs, hcarried⟩

/-- The instance sets the port inside the container, and it stands on neither command line. -/
theorem container_port_ignored : ∃ merged dockerArgs,
    mergeDockerConfig "/data/qwen" "qwen" (some { image := "vllm" })
      (some { containerPort := some 9000 }) = .ok merged ∧
    buildDockerRunArgs merged = .ok dockerArgs ∧
    ∀ arg ∈ dockerArgs ++ buildVllmArgs noExternal merged, Text.contains arg "9000" = false :=
  ⟨_, _, rfl, rfl, by decide⟩

end LightAI.Agent
