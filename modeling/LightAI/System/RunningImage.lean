import LightAI.Agent.ContainerNames
import LightAI.Server.Served

/-!
# The image that is checked and the image that runs

The row of a docker runtime environment names an image, which the server requires and the agent's check
inspects. The payload of a start carries that image too, but the agent does not read it there: it runs the
image that the parameters of the runtime environment name.
-/

namespace LightAI.System

open LightAI.Agent (World Moment DockerRuntimeConfig DockerInstanceOverrides DockerPayload
  jsonOrText payloadText payloadRuntimeConfig payloadOverrides mergeDockerConfig resolveDockerPayload
  validateDockerArg buildDockerRunArgs buildVllmArgs dockerRunArgs dockerRunsOf handleStart)

open LightAI.Server (ModelInstanceView RuntimeEnvironment InstanceModelFile NewAgentTask TaskFor Db
  instancePayload completePayload instanceTaskPayload)

/-! ### What the agent reads in the payload of a start -/

section Payload

variable (deps : Server.External) (row : ModelInstanceView) (runtimeEnvironmentId : String)
  (env : RuntimeEnvironment) (params : Json) (file : Option (String × InstanceModelFile))

theorem get?_completePayload (payload : Json) (runtimeParams : Option Json) (modelName : Option String)
    {key : String} (hparams : "runtime_params" ≠ key) (hname : "model_name" ≠ key) :
    (completePayload payload runtimeParams modelName).get? key = payload.get? key := by
  unfold completePayload
  cases runtimeParams <;> cases modelName <;>
    simp [Json.get?_set_of_ne _ hparams, Json.get?_set_of_ne _ hname]

theorem get?_runtimeParams (fields : List (String × Json)) (runtimeParams : Option Json)
    (modelName : Option String) :
    (completePayload (.obj fields) runtimeParams modelName).get? "runtime_params"
      = runtimeParams.or ((Json.obj fields).get? "runtime_params") := by
  unfold completePayload
  have hname : "model_name" ≠ "runtime_params" := by decide
  cases runtimeParams <;> cases modelName <;> simp [Json.get?_set_of_ne _ hname]

theorem get?_modelName (fields : List (String × Json)) (runtimeParams : Option Json)
    (modelName : Option String) :
    (completePayload (.obj fields) runtimeParams modelName).get? "model_name"
      = (modelName.map Json.str).or ((Json.obj fields).get? "model_name") := by
  have hparams : "runtime_params" ≠ "model_name" := by decide
  cases modelName with
  | none =>
      unfold completePayload
      cases runtimeParams <;> simp [Json.get?_set_of_ne _ hparams]
  | some name =>
      cases runtimeParams with
      | none => exact Json.get?_set_self fields _ _
      | some runtimeParams => exact Json.get?_set_self _ _ _

theorem payload_deployType :
    payloadText (instanceTaskPayload deps row runtimeEnvironmentId env params file) "deploy_type"
      = env.deployType := by
  unfold payloadText instanceTaskPayload
  rw [Server.getStr_completePayload _ _ _ (by decide) (by decide)]
  rfl

theorem payload_overrides (agent : Agent.External) :
    payloadOverrides agent (instanceTaskPayload deps row runtimeEnvironmentId env params file)
      = DockerInstanceOverrides.fromJson (jsonOrText agent (.str (deps.jsonToString params))) := by
  unfold payloadOverrides instanceTaskPayload
  rw [get?_completePayload _ _ _ (by decide) (by decide)]
  cases file <;> simp [instancePayload]

theorem payload_modelPath :
    (instanceTaskPayload deps row runtimeEnvironmentId env params file).getStr "model_path"
      = file.map (·.2.path) := by
  unfold instanceTaskPayload
  rw [Server.getStr_completePayload _ _ _ (by decide) (by decide)]
  cases file <;> simp [instancePayload, Json.getStr, Json.asStr]

theorem payload_modelName :
    (instanceTaskPayload deps row runtimeEnvironmentId env params file).getStr "model_name"
      = row.modelDefinitionName := by
  unfold instanceTaskPayload instancePayload Json.getStr
  rw [get?_modelName]
  cases row.modelDefinitionName with
  | none => cases file <;> simp
  | some modelName => rfl

/-- The parameters of the runtime environment, as the agent reads them. -/
def runtimeConfig (deps : Server.External) (agent : Agent.External) (env : RuntimeEnvironment) :
    Option DockerRuntimeConfig :=
  (env.paramsJson.bind deps.jsonFromStr).bind fun value =>
    DockerRuntimeConfig.fromJson (jsonOrText agent value)

theorem payload_runtimeConfig (agent : Agent.External) :
    payloadRuntimeConfig agent (instanceTaskPayload deps row runtimeEnvironmentId env params file)
      = runtimeConfig deps agent env := by
  have hconfig : (instanceTaskPayload deps row runtimeEnvironmentId env params file).get?
      "runtime_config" = none := by
    unfold instanceTaskPayload
    rw [get?_completePayload _ _ _ (by decide) (by decide)]
    cases file <;> simp [instancePayload]
  have hparams : (instanceTaskPayload deps row runtimeEnvironmentId env params file).get?
      "runtime_params" = env.paramsJson.bind deps.jsonFromStr := by
    unfold instanceTaskPayload instancePayload
    rw [get?_runtimeParams]
    cases env.paramsJson.bind deps.jsonFromStr with
    | none => cases file <;> simp
    | some runtimeParams => rfl
  unfold payloadRuntimeConfig runtimeConfig
  rw [hconfig, hparams, Option.or_none]

end Payload

/-! ### What the agent runs -/

/-- What the layers must say for them to be merged. -/
structure Mergeable (modelHostPath modelName : String) (rt : DockerRuntimeConfig)
    (ov : DockerInstanceOverrides) : Prop where
  image : Text.isBlank rt.image = false
  modelPath : Text.isBlank modelHostPath = false
  servedName : (Text.isBlank ov.servedModelName && Text.isBlank modelName) = false

section Merge

variable {modelHostPath modelName : String} {runtime : Option DockerRuntimeConfig}
  {overrides : Option DockerInstanceOverrides}

theorem merge_of_mergeable
    (h : Mergeable modelHostPath modelName (runtime.getD {}) (overrides.getD {})) :
    ∃ merged, mergeDockerConfig modelHostPath modelName runtime overrides = .ok merged ∧
      merged.docker.image = (runtime.getD {}).image ∧
      merged.docker.extraDockerArgs
        = (runtime.getD {}).extraDockerArgs ++ (overrides.getD {}).extraDockerArgs := by
  unfold mergeDockerConfig
  dsimp only
  rw [h.image, h.modelPath, h.servedName]
  exact ⟨_, rfl, rfl, rfl⟩

theorem mergeable_of_merge {merged : DockerPayload}
    (h : mergeDockerConfig modelHostPath modelName runtime overrides = .ok merged) :
    Mergeable modelHostPath modelName (runtime.getD {}) (overrides.getD {}) := by
  unfold mergeDockerConfig at h
  dsimp only at h
  cases himage : Text.isBlank (runtime.getD {}).image with
  | true =>
      rw [himage] at h
      cases h
  | false =>
      cases hpath : Text.isBlank modelHostPath with
      | true =>
          rw [himage, hpath] at h
          cases h
      | false =>
          cases hname : Text.isBlank (overrides.getD {}).servedModelName && Text.isBlank modelName with
          | true =>
              rw [himage, hpath, hname] at h
              cases h
          | false => exact ⟨himage, hpath, hname⟩

end Merge

section Resolve

variable (deps : Agent.External) (payload : Json)

theorem resolveDockerPayload_eq :
    resolveDockerPayload deps payload
      = match mergeDockerConfig (payloadText payload "model_path") (payloadText payload "model_name")
          (payloadRuntimeConfig deps payload) (payloadOverrides deps payload) with
        | .ok merged => merged
        | .error _ => {} := by
  unfold resolveDockerPayload
  cases hruntime : payloadRuntimeConfig deps payload with
  | some rt => rfl
  | none =>
      cases hoverrides : payloadOverrides deps payload with
      | some ov => rfl
      | none => rfl

theorem image_blank_of_unmergeable
    (h : ¬ Mergeable (payloadText payload "model_path") (payloadText payload "model_name")
      ((payloadRuntimeConfig deps payload).getD {}) ((payloadOverrides deps payload).getD {})) :
    (resolveDockerPayload deps payload).docker.image = "" := by
  rw [resolveDockerPayload_eq]
  cases hmerge : mergeDockerConfig (payloadText payload "model_path") (payloadText payload "model_name")
      (payloadRuntimeConfig deps payload) (payloadOverrides deps payload) with
  | ok merged => exact absurd (mergeable_of_merge hmerge) h
  | error message => rfl

theorem validateDockerArgs_error (args : List String) :
    args.forM validateDockerArg ≠ .error "Docker image not configured" := by
  induction args with
  | nil => exact nofun
  | cons arg args ih =>
      have hone : validateDockerArg arg ≠ .error "Docker image not configured" := by
        unfold validateDockerArg
        split
        · decide
        · split
          · decide
          · exact nofun
      change (validateDockerArg arg >>= fun _ => args.forM validateDockerArg) ≠ _
      cases hvalid : validateDockerArg arg with
      | ok u => exact ih
      | error message => exact fun h => hone (hvalid.trans h)

variable {docker : DockerPayload} {args : List String}

theorem unconfigured_of_blank (hblank : Text.isBlank docker.docker.image = true) :
    buildDockerRunArgs docker = .error "Docker image not configured" := by
  unfold buildDockerRunArgs
  dsimp only
  rw [if_pos hblank]

theorem buildDockerRunArgs_of_image (himage : Text.isBlank docker.docker.image = false) :
    ∃ options, buildDockerRunArgs docker
      = (docker.docker.extraDockerArgs.forM validateDockerArg).map fun _ =>
          options ++ ["--detach", Text.trim docker.docker.image] := by
  unfold buildDockerRunArgs
  dsimp only
  rw [himage]
  refine ⟨?options, ?_⟩
  case options =>
    exact ["run"] ++ Agent.optionArgs "--name" docker.docker.containerName
      ++ Agent.optionArgs "--gpus" docker.docker.gpu ++ Agent.optionArgs "--ipc" docker.docker.ipc
      ++ docker.docker.ports.flatMap Agent.portArgs ++ docker.docker.volumes.flatMap Agent.volumeArgs
      ++ docker.docker.env.flatMap (fun entry => ["-e", entry.1 ++ "=" ++ entry.2])
      ++ docker.docker.extraDockerArgs
  cases docker.docker.extraDockerArgs.forM validateDockerArg with
  | ok u => rfl
  | error message => rfl

end Resolve

/-! ### The theorem -/

/-- Every `docker run` that a start issues has `image` as its image argument, and the start does not end
for want of an image. -/
structure RunsImage (deps : Agent.External) (env : Nat → Moment) (w : World) (payload : Json)
    (image : String) : Prop where
  runs : ∀ issued ∈ dockerRunsOf env (handleStart deps payload) w, ∃ options,
    issued.1 = options ++ ["--detach", image]
      ++ buildVllmArgs deps (resolveDockerPayload deps payload)
  configured : dockerRunArgs deps payload ≠ .error "Docker image not configured"

/-- The parameters of the runtime environment name `image`, unless the start ends before it comes to run
it, and the layers can be merged. -/
structure ParamsNameImage (deps : Server.External) (agent : Agent.External) (row : ModelInstanceView)
    (env : RuntimeEnvironment) (params : Json) (file : Option (String × InstanceModelFile))
    (image : String) (rt : DockerRuntimeConfig) (ov : DockerInstanceOverrides) : Prop where
  runtime : runtimeConfig deps agent env = some rt
  overrides : (DockerInstanceOverrides.fromJson
    (jsonOrText agent (.str (deps.jsonToString params)))).getD {} = ov
  mergeable : Mergeable ((file.map (·.2.path)).getD "") (row.modelDefinitionName.getD "") rt ov
  image : (rt.extraDockerArgs ++ ov.extraDockerArgs).forM validateDockerArg = .ok () →
    Text.trim rt.image = image

section Start

variable {deps : Server.External} {agent : Agent.External} {moments : Nat → Moment} {w : World}
  {image : String}

/-- What a start on docker runs depends on the image of its merged configuration alone. -/
theorem runsImage_iff {payload : Json} (hdocker : payloadText payload "deploy_type" = "docker") :
    RunsImage agent moments w payload image
      ↔ Text.isBlank (resolveDockerPayload agent payload).docker.image = false ∧
        ((resolveDockerPayload agent payload).docker.extraDockerArgs.forM validateDockerArg = .ok () →
          Text.trim (resolveDockerPayload agent payload).docker.image = image) := by
  have hissued := @Agent.dockerRunsOf_handleStart agent moments payload w
  rw [if_pos hdocker] at hissued
  unfold dockerRunArgs at hissued
  dsimp only at hissued
  cases hblank : Text.isBlank (resolveDockerPayload agent payload).docker.image with
  | true =>
      refine iff_of_false (fun h => h.configured ?_) fun h => absurd h.1 (by decide)
      unfold dockerRunArgs
      dsimp only
      rw [unconfigured_of_blank hblank]
      rfl
  | false =>
      obtain ⟨options, hargs⟩ := buildDockerRunArgs_of_image hblank
      cases hvalid : (resolveDockerPayload agent payload).docker.extraDockerArgs.forM
          validateDockerArg with
      | error message =>
          rw [hargs, hvalid] at hissued
          refine iff_of_true ⟨fun issued hmem => ?_, ?_⟩ ⟨rfl, nofun⟩
          · rw [hissued] at hmem
            cases hmem
          · unfold dockerRunArgs
            dsimp only
            rw [hargs, hvalid]
            intro herror
            rw [Except.error.inj herror] at hvalid
            exact validateDockerArgs_error _ hvalid
      | ok u =>
          rw [hargs, hvalid] at hissued
          constructor
          · intro h
            refine ⟨rfl, fun _ => ?_⟩
            have hmem : (options ++ ["--detach", Text.trim (resolveDockerPayload agent payload).docker.image]
                ++ buildVllmArgs agent (resolveDockerPayload agent payload), w.now)
                  ∈ dockerRunsOf moments (handleStart agent payload) w := by
              rw [hissued]
              exact List.mem_singleton.mpr rfl
            obtain ⟨options', hsame⟩ := h.runs _ hmem
            have hlast := List.append_cancel_right hsame
            simpa using congrArg List.getLast? hlast
          · rintro ⟨-, himage⟩
            refine ⟨fun issued hmem => ?_, ?_⟩
            · rw [hissued] at hmem
              rw [List.mem_singleton.mp hmem, ← himage rfl]
              exact ⟨options, rfl⟩
            · unfold dockerRunArgs
              dsimp only
              rw [hargs, hvalid]
              exact nofun

/-- Of a start that the server has enqueued: it runs the image of the runtime environment's row exactly when
the parameters of the runtime environment name that image too, the file of the task has a path, and the
model or the instance a name. -/
theorem image_runs_iff {db : Db} {id taskId : String} {task : NewAgentTask}
    (start : TaskFor deps db id .startModelInstance taskId task)
    (hdocker : start.env.deployType = "docker") :
    RunsImage agent moments w task.payloadJson (start.env.dockerImage.getD "")
      ↔ ∃ rt ov, ParamsNameImage deps agent (db.instanceView start.row) start.env start.params
          start.file (start.env.dockerImage.getD "") rt ov := by
  have hdeploy : payloadText task.payloadJson "deploy_type" = "docker" := by
    rw [start.payload, payload_deployType, hdocker]
  rw [runsImage_iff hdeploy]
  have hpath : payloadText task.payloadJson "model_path" = (start.file.map (·.2.path)).getD "" := by
    rw [start.payload, payloadText, payload_modelPath]
  have hname : payloadText task.payloadJson "model_name"
      = ((db.instanceView start.row).modelDefinitionName).getD "" := by
    rw [start.payload, payloadText, payload_modelName]
  have hruntime : payloadRuntimeConfig agent task.payloadJson = runtimeConfig deps agent start.env := by
    rw [start.payload, payload_runtimeConfig]
  have hoverrides : payloadOverrides agent task.payloadJson = DockerInstanceOverrides.fromJson
      (jsonOrText agent (.str (deps.jsonToString start.params))) := by
    rw [start.payload, payload_overrides]
  by_cases hmergeable : Mergeable (payloadText task.payloadJson "model_path")
      (payloadText task.payloadJson "model_name")
      ((payloadRuntimeConfig agent task.payloadJson).getD {})
      ((payloadOverrides agent task.payloadJson).getD {})
  · obtain ⟨merged, hmerge, himage, hextra⟩ := merge_of_mergeable hmergeable
    have hresolve : resolveDockerPayload agent task.payloadJson = merged := by
      rw [resolveDockerPayload_eq, hmerge]
    rw [hresolve, himage, hextra]
    constructor
    · rintro ⟨hblank, hsame⟩
      cases hrt : payloadRuntimeConfig agent task.payloadJson with
      | none =>
          rw [hrt] at hblank
          exact absurd hblank (by decide)
      | some rt =>
          rw [hrt] at hmergeable hsame
          rw [hpath, hname] at hmergeable
          exact ⟨rt, _, hruntime ▸ hrt, by rw [hoverrides], hmergeable, hsame⟩
    · rintro ⟨rt, ov, hnamed⟩
      rw [hruntime, hnamed.runtime, hoverrides, hnamed.overrides]
      exact ⟨hnamed.mergeable.image, hnamed.image⟩
  · refine iff_of_false (fun h => ?_) ?_
    · rw [image_blank_of_unmergeable agent _ hmergeable] at h
      exact absurd h.1 (by decide)
    · rintro ⟨rt, ov, hnamed⟩
      apply hmergeable
      rw [hpath, hname, hruntime, hnamed.runtime, hoverrides, hnamed.overrides]
      exact hnamed.mergeable

end Start

/-! ### One instance on docker -/

def dockerRuntime (paramsJson : Option String) : RuntimeEnvironment :=
  { id := "r"
    nodeId := some "n"
    name := "runtime"
    backend := "vllm"
    deployType := "docker"
    dockerImage := some "vllm/vllm-openai:v2"
    paramsJson
    checkStatus := some "available"
    createdAt := 0
    updatedAt := 0 }

def dockerInstance : Server.ModelInstance :=
  { id := "i"
    modelId := some "m"
    nodeId := some "n"
    runtimeEnvironmentId := some "r"
    name := "chat"
    modelFileId := some "f"
    backend := "vllm"
    deployType := "local"
    status := "stopped"
    createdAt := 0
    updatedAt := 0 }

/-- A node with one local instance on a docker runtime environment. -/
def dockerDb (paramsJson : Option String) : Db :=
  { clock := 1000
    nodes := Server.oneNode
    models := ⟨[{ id := "m", name := "qwen" }], by decide⟩
    runtimeEnvironments := ⟨[dockerRuntime paramsJson], List.nodup_singleton _⟩
    modelFiles :=
      ⟨[{ id := "f", modelId := "m", nodeId := "n", path := "/models/qwen", status := "verified"
          createdAt := 0, updatedAt := 0 }], by decide⟩
    modelInstances := ⟨[dockerInstance], List.nodup_singleton _⟩ }

/-- Two texts can be parsed, and the empty object printed. -/
def serverParsers : Server.External :=
  { Server.noExternal with
    jsonFromStr text :=
      if text = "\x7b\"image\":\"vllm/vllm-openai:v2\"\x7d" then
        some (.obj [("image", .str "vllm/vllm-openai:v2")])
      else if text = "\x7b\"image\":\"vllm/vllm-openai:v1\"\x7d" then
        some (.obj [("image", .str "vllm/vllm-openai:v1")])
      else none }

def agentParsers : Agent.External :=
  { Agent.noExternal with jsonFromStr text := if text = "\x7b\x7d" then some (.obj []) else none }

def dockerFile : InstanceModelFile :=
  { modelId := "m", nodeId := "n", path := "/models/qwen", pathType := none }

/-- The task of a start of the instance. -/
def dockerTask (paramsJson : Option String) : NewAgentTask :=
  { id := "t"
    nodeId := "n"
    kind := .startModelInstance
    payloadJson := instanceTaskPayload serverParsers
      ((dockerDb paramsJson).instanceView dockerInstance) "r" (dockerRuntime paramsJson) (.obj [])
      (some ("f", dockerFile))
    now := 1000 }

def dockerStart (paramsJson : Option String) :
    TaskFor serverParsers (dockerDb paramsJson) "i" .startModelInstance "t" (dockerTask paramsJson) where
  row := dockerInstance
  runtimeEnvironmentId := "r"
  env := dockerRuntime paramsJson
  params := .obj []
  file := some ("f", dockerFile)
  id_eq := rfl
  kind_eq := rfl
  find_row := rfl
  isLocal := rfl
  node := rfl
  runtime := rfl
  find_env := rfl
  usable := rfl
  parsed := rfl
  taskFile := ⟨show "vllm" ≠ "ollama" by decide, rfl, _, rfl, rfl, rfl, rfl, rfl⟩
  payload := rfl

/-- The parameters name another image than the row, and the start runs that one. -/
theorem other_image_runs :
    (Server.serve (Server.enqueueLocalInstanceTask serverParsers "i" .startModelInstance "starting" "t")
        (dockerDb (some "\x7b\"image\":\"vllm/vllm-openai:v1\"\x7d"))).2.agentTasks.find? "t"
      = some (dockerTask (some "\x7b\"image\":\"vllm/vllm-openai:v1\"\x7d")).row ∧
    ¬ RunsImage agentParsers Agent.keptContainer {}
      (dockerTask (some "\x7b\"image\":\"vllm/vllm-openai:v1\"\x7d")).payloadJson
      "vllm/vllm-openai:v2" := by
  refine ⟨by rfl, fun h => ?_⟩
  rw [runsImage_iff (by rfl)] at h
  exact absurd (h.2 (by rfl)) (by decide)

/-- The parameters name the image of the row. -/
theorem named_image_runs :
    RunsImage agentParsers Agent.keptContainer {}
      (dockerTask (some "\x7b\"image\":\"vllm/vllm-openai:v2\"\x7d")).payloadJson
      "vllm/vllm-openai:v2" := by
  refine (image_runs_iff (dockerStart _) rfl).mpr
    ⟨{ image := "vllm/vllm-openai:v2" }, {}, by rfl, by rfl, ?_, fun _ => by decide⟩
  exact ⟨by decide, by decide, by decide⟩

end LightAI.System
