import LightAI.Base.CommandLine
import LightAI.Base.Trim
import LightAI.Agent.DockerBackend

/-!
# The options of `docker run` and of the backend

Both lists of arguments consist of options with their values, which the merged configuration determines, and
of the extra arguments, which come after them.
-/

namespace LightAI.Agent

open CommandLine (Options arguments values repeated pairs)

/-! ### The options -/

/-- A blank value is not given. -/
def textValue (value : String) : Option String :=
  if Text.isBlank value then none else some (Text.trim value)

def portText (port : DockerPortMapping) : String :=
  toString port.host ++ ":" ++ toString port.container

def volumeText (volume : DockerVolumeMapping) : String :=
  Text.trim volume.host ++ ":" ++ Text.trim volume.container ++ if volume.readonly then ":ro" else ""

def dockerOptions (docker : DockerInstanceParams) : Options :=
  repeated "--name" (textValue docker.containerName).toList
    ++ repeated "--gpus" (textValue docker.gpu).toList
    ++ repeated "--ipc" (textValue docker.ipc).toList ++ repeated "-p" (docker.ports.map portText)
    ++ repeated "-v" (docker.volumes.map volumeText)
    ++ repeated "-e" (docker.env.map fun entry => entry.1 ++ "=" ++ entry.2)

def vllmOptions (deps : External) (vllm : VllmParams) : Options :=
  repeated "--model" (textValue vllm.model).toList
    ++ repeated "--served-model-name" (textValue vllm.servedModelName).toList
    ++ repeated "--host" (textValue vllm.host).toList
    ++ repeated "--port" (if vllm.port > 0 then [toString vllm.port] else [])
    ++ repeated "--gpu-memory-utilization" (vllm.gpuMemoryUtilization.map deps.formatF64).toList
    ++ repeated "--max-model-len" (vllm.maxModelLen.map toString).toList
    ++ repeated "--max-num-seqs" (vllm.maxNumSeqs.map toString).toList
    ++ repeated "--tensor-parallel-size"
      ((vllm.tensorParallelSize.filter (· > 0)).map toString).toList

theorem textValue_of_blank {value : String} (hblank : Text.isBlank value = true) :
    textValue value = none := if_pos hblank

theorem textValue_of_notBlank {value : String} (hblank : Text.isBlank value = false) :
    textValue value = some (Text.trim value) := by
  unfold textValue
  rw [hblank]
  rfl

@[simp]
theorem textValue_trim (value : String) : textValue (Text.trim value) = textValue value := by
  unfold textValue
  rw [Text.isBlank_trim, Text.trim_trim]

/-! ### What the options are given -/

section Values

variable (deps : External) (docker : DockerInstanceParams) (vllm : VllmParams)

theorem values_publish : values "-p" (dockerOptions docker) = docker.ports.map portText := by
  simp [dockerOptions]

theorem values_volume : values "-v" (dockerOptions docker) = docker.volumes.map volumeText := by
  simp [dockerOptions]

theorem values_model : values "--model" (vllmOptions deps vllm) = (textValue vllm.model).toList := by
  simp [vllmOptions]

theorem values_port : values "--port" (vllmOptions deps vllm)
    = if vllm.port > 0 then [toString vllm.port] else [] := by
  simp [vllmOptions]

end Values

/-! ### The arguments -/

theorem optionArgs_eq (option value : String) :
    optionArgs option value = arguments (repeated option (textValue value).toList) := by
  unfold optionArgs textValue
  by_cases hblank : Text.isBlank value = true
  · rw [if_pos hblank, if_pos hblank]
    rfl
  · rw [if_neg hblank, if_neg hblank]
    rfl

theorem valueArgs_eq {α : Type} (option : String) (text : α → String) (value : Option α) :
    valueArgs option text value = arguments (repeated option (value.map text).toList) := by
  cases value with
  | none => rfl
  | some value => rfl

theorem buildVllmArgs_eq (deps : External) (payload : DockerPayload) :
    buildVllmArgs deps payload
      = arguments (vllmOptions deps payload.vllm) ++ payload.vllm.extraVllmArgs := by
  have hport : (if payload.vllm.port > 0 then ["--port", toString payload.vllm.port] else [])
      = arguments
        (repeated "--port" (if payload.vllm.port > 0 then [toString payload.vllm.port] else [])) := by
    by_cases hpos : payload.vllm.port > 0
    · rw [if_pos hpos, if_pos hpos]
      rfl
    · rw [if_neg hpos, if_neg hpos]
      rfl
  unfold buildVllmArgs vllmOptions
  dsimp only
  rw [hport]
  simp only [optionArgs_eq, valueArgs_eq, CommandLine.arguments_append]

theorem buildDockerRunArgs_eq_ok_iff {payload : DockerPayload} {args : List String} :
    buildDockerRunArgs payload = .ok args
      ↔ Text.isBlank payload.docker.image = false ∧
        payload.docker.extraDockerArgs.forM validateDockerArg = .ok () ∧
        args = "run" :: (arguments (dockerOptions payload.docker) ++ payload.docker.extraDockerArgs
          ++ ["--detach", Text.trim payload.docker.image]) := by
  have hports : payload.docker.ports.flatMap portArgs
      = arguments (repeated "-p" (payload.docker.ports.map portText)) := by
    rw [CommandLine.arguments_repeated, List.flatMap_map]
    rfl
  have hvolumes : payload.docker.volumes.flatMap volumeArgs
      = arguments (repeated "-v" (payload.docker.volumes.map volumeText)) := by
    rw [CommandLine.arguments_repeated, List.flatMap_map]
    rfl
  have henv : payload.docker.env.flatMap (fun entry => ["-e", entry.1 ++ "=" ++ entry.2])
      = arguments
        (repeated "-e" (payload.docker.env.map fun entry => entry.1 ++ "=" ++ entry.2)) := by
    rw [CommandLine.arguments_repeated, List.flatMap_map]
  unfold buildDockerRunArgs
  dsimp only
  cases hblank : Text.isBlank payload.docker.image with
  | true => exact iff_of_false (fun h => by cases h) fun h => by cases h.1
  | false =>
      cases hvalid : payload.docker.extraDockerArgs.forM validateDockerArg with
      | error message => exact iff_of_false (fun h => by cases h) fun h => by cases h.2.1
      | ok u =>
          have hargs : ["run"] ++ optionArgs "--name" payload.docker.containerName
              ++ optionArgs "--gpus" payload.docker.gpu ++ optionArgs "--ipc" payload.docker.ipc
              ++ payload.docker.ports.flatMap portArgs ++ payload.docker.volumes.flatMap volumeArgs
              ++ payload.docker.env.flatMap (fun entry => ["-e", entry.1 ++ "=" ++ entry.2])
              ++ payload.docker.extraDockerArgs ++ ["--detach", Text.trim payload.docker.image]
              = "run" :: (arguments (dockerOptions payload.docker) ++ payload.docker.extraDockerArgs
                ++ ["--detach", Text.trim payload.docker.image]) := by
            unfold dockerOptions
            rw [hports, hvolumes, henv]
            simp only [optionArgs_eq, CommandLine.arguments_append, List.append_assoc,
              List.cons_append, List.nil_append]
          constructor
          · intro h
            exact ⟨rfl, rfl, (Except.ok.inj h).symm.trans hargs⟩
          · rintro ⟨-, -, rfl⟩
            exact congrArg Except.ok hargs

end LightAI.Agent
