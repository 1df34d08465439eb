import LightAI.System.RunningImage
import LightAI.Agent.DockerLayers

/-!
# Parameters that cannot be read

The payload of a start on docker gives two sets of parameters. One of the two that cannot be read counts as
one that is not given: without those of the runtime environment there is no image, and the start fails, but
without those of the instance the container is run as the runtime environment has it.
-/

namespace LightAI.System

open LightAI.Agent (World Moment DockerRuntimeConfig DockerInstanceOverrides DockerPayload run
  jsonOrText payloadText payloadRuntimeConfig payloadOverrides mergeDockerConfig resolveDockerPayload
  validateDockerArg buildDockerRunArgs buildDockerRunArgs_eq_ok_iff buildVllmArgs dockerRunArgs
  dockerRunsOf handleStart mergeDockerConfig_ok image_of_merge)

/-! ### What is given -/

/-- The parameters under a key of a payload. -/
inductive Given (α : Type) where
  | nothing
  | readable (params : α)
  | unreadable

namespace Given

variable {α : Type} (deps : Agent.External) (read : Json → Option α)

/-- `null` gives nothing. -/
def ofValue : Json → Given α
  | .null => nothing
  | value =>
      match read value with
      | some params => readable params
      | none => unreadable

/-- The text of the parameters has been parsed, unless it is not JSON. -/
def ofText : Option Json → Given α
  | none => unreadable
  | some value => ofValue read value

/-- Parameters may be given as the text of their JSON. -/
def params : Option Json → Given α
  | none => nothing
  | some value =>
      match value.asStr with
      | some text => ofText read (deps.jsonFromStr text)
      | none => ofValue read value

/-- The layer that is to be merged, unless it cannot be read. -/
def layer : Given α → Option (Option α)
  | nothing => some none
  | readable params => some (some params)
  | unreadable => none

end Given

/-- The parameters of the runtime environment, which a payload gives under either of two keys. -/
def givenRuntime (deps : Agent.External) (payload : Json) : Given DockerRuntimeConfig :=
  Given.params deps DockerRuntimeConfig.fromJson
    ((payload.get? "runtime_params").or (payload.get? "runtime_config"))

def givenOverrides (deps : Agent.External) (payload : Json) : Given DockerInstanceOverrides :=
  Given.params deps DockerInstanceOverrides.fromJson (payload.get? "params_json")

section Read

variable {α : Type} {deps : Agent.External} {read : Json → Option α} (hnull : read .null = none)
include hnull

theorem layer_ofValue (value : Json) : (Given.ofValue read value).layer.join = read value := by
  cases value with
  | null => exact hnull.symm
  | _ =>
      unfold Given.ofValue
      dsimp only
      cases read _ <;> rfl

/-- What the agent reads is the layer, and nothing where that cannot be read. -/
theorem layer_params (given : Option Json) :
    (Given.params deps read given).layer.join
      = given.bind fun value => read (jsonOrText deps value) := by
  cases given with
  | none => rfl
  | some value =>
      unfold Given.params jsonOrText
      dsimp only
      rw [Option.bind_some]
      cases value.asStr with
      | none => exact layer_ofValue hnull value
      | some text =>
          dsimp only
          cases deps.jsonFromStr text with
          | none => exact hnull.symm
          | some parsed => exact layer_ofValue hnull parsed

end Read

theorem payloadRuntimeConfig_eq (deps : Agent.External) (payload : Json) :
    payloadRuntimeConfig deps payload = (givenRuntime deps payload).layer.join :=
  (layer_params rfl _).symm

theorem payloadOverrides_eq (deps : Agent.External) (payload : Json) :
    payloadOverrides deps payload = (givenOverrides deps payload).layer.join :=
  (layer_params rfl _).symm

/-! ### The start -/

/-- The start fails without running a container, or the one that it runs is built from what the payload
gives. -/
def StartsFromLayers (deps : Agent.External) (env : Nat → Moment) (w : World) (payload : Json) : Prop :=
  (dockerRunsOf env (handleStart deps payload) w = [] ∧
      (run env (handleStart deps payload) w).1.instanceStatus = "failed") ∨
    ∃ runtime overrides merged dockerArgs,
      (givenRuntime deps payload).layer = some runtime ∧
      (givenOverrides deps payload).layer = some overrides ∧
      mergeDockerConfig (payloadText payload "model_path") (payloadText payload "model_name") runtime
        overrides = .ok merged ∧
      buildDockerRunArgs merged = .ok dockerArgs ∧
      dockerRunsOf env (handleStart deps payload) w
        = [(dockerArgs ++ buildVllmArgs deps merged, w.now)]

/-- The runtime environment alone has a container run. -/
structure RunsAlone (deps : Agent.External) (payload : Json) : Prop where
  mergeable : Mergeable (payloadText payload "model_path") (payloadText payload "model_name")
    ((payloadRuntimeConfig deps payload).getD {}) {}
  extraArgs : ((payloadRuntimeConfig deps payload).getD {}).extraDockerArgs.forM validateDockerArg
    = .ok ()

section Start

variable {deps : Agent.External} {env : Nat → Moment} {w : World} {payload : Json}

theorem dockerRunsOf_of_built (hdocker : payloadText payload "deploy_type" = "docker")
    {dockerArgs : List String}
    (hargs : buildDockerRunArgs (resolveDockerPayload deps payload) = .ok dockerArgs) :
    dockerRunsOf env (handleStart deps payload) w
      = [(dockerArgs ++ buildVllmArgs deps (resolveDockerPayload deps payload), w.now)] := by
  rw [Agent.dockerRunsOf_handleStart, if_pos hdocker]
  unfold dockerRunArgs
  dsimp only
  rw [hargs]
  rfl

theorem fails_of_unbuilt (hdocker : payloadText payload "deploy_type" = "docker") {message : String}
    (hargs : buildDockerRunArgs (resolveDockerPayload deps payload) = .error message) :
    dockerRunsOf env (handleStart deps payload) w = [] ∧
      (run env (handleStart deps payload) w).1.instanceStatus = "failed" := by
  constructor
  · rw [Agent.dockerRunsOf_handleStart, if_pos hdocker]
    unfold dockerRunArgs
    dsimp only
    rw [hargs]
    rfl
  · unfold handleStart Agent.startModelInstanceWithStore
    dsimp only
    rw [if_pos hdocker]
    unfold Agent.startDockerInstance Agent.startDockerContainer
    dsimp only
    rw [hargs]
    rfl

/-- Without a merged configuration there is no image. -/
theorem unbuilt_of_unmerged {reason : String}
    (hmerge : mergeDockerConfig (payloadText payload "model_path") (payloadText payload "model_name")
      (payloadRuntimeConfig deps payload) (payloadOverrides deps payload) = .error reason) :
    buildDockerRunArgs (resolveDockerPayload deps payload) = .error "Docker image not configured" := by
  rw [resolveDockerPayload_eq, hmerge]
  exact unconfigured_of_blank rfl

theorem resolved_of_merged {merged : DockerPayload}
    (hmerge : mergeDockerConfig (payloadText payload "model_path") (payloadText payload "model_name")
      (payloadRuntimeConfig deps payload) (payloadOverrides deps payload) = .ok merged) :
    resolveDockerPayload deps payload = merged := by
  rw [resolveDockerPayload_eq, hmerge]

/-- Where both sets can be read, they are what is merged. -/
theorem startsFromLayers_of_layers (hdocker : payloadText payload "deploy_type" = "docker")
    {overrides : Option DockerInstanceOverrides}
    (hoverrides : (givenOverrides deps payload).layer = some overrides) :
    StartsFromLayers deps env w payload := by
  have hread : payloadOverrides deps payload = overrides := by
    rw [payloadOverrides_eq, hoverrides]
    rfl
  cases hmerge : mergeDockerConfig (payloadText payload "model_path") (payloadText payload "model_name")
      (payloadRuntimeConfig deps payload) (payloadOverrides deps payload) with
  | error reason => exact Or.inl (fails_of_unbuilt hdocker (unbuilt_of_unmerged hmerge))
  | ok merged =>
      cases hargs : buildDockerRunArgs (resolveDockerPayload deps payload) with
      | error message => exact Or.inl (fails_of_unbuilt hdocker hargs)
      | ok dockerArgs =>
          right
          cases hruntime : (givenRuntime deps payload).layer with
          | none =>
              -- parameters that cannot be read are none, and have no image
              have hnone : payloadRuntimeConfig deps payload = none := by
                rw [payloadRuntimeConfig_eq, hruntime]
                rfl
              have himage := image_of_merge hmerge
              rw [hnone] at himage
              exact absurd himage (by decide)
          | some runtime =>
              have hconfig : payloadRuntimeConfig deps payload = runtime := by
                rw [payloadRuntimeConfig_eq, hruntime]
                rfl
              have hresolved := resolved_of_merged hmerge
              rw [hconfig, hread] at hmerge
              refine ⟨runtime, overrides, merged, dockerArgs, rfl, hoverrides, hmerge, ?_, ?_⟩
              · rw [← hresolved]
                exact hargs
              · rw [dockerRunsOf_of_built hdocker hargs, hresolved]

/-- Without the parameters of the instance, a container is run exactly when the runtime environment alone
has one run. -/
theorem built_alone_iff (hnone : payloadOverrides deps payload = none) :
    (∃ dockerArgs, buildDockerRunArgs (resolveDockerPayload deps payload) = .ok dockerArgs)
      ↔ RunsAlone deps payload := by
  constructor
  · rintro ⟨dockerArgs, hargs⟩
    cases hmerge : mergeDockerConfig (payloadText payload "model_path")
        (payloadText payload "model_name") (payloadRuntimeConfig deps payload)
        (payloadOverrides deps payload) with
    | error reason =>
        rw [unbuilt_of_unmerged hmerge] at hargs
        cases hargs
    | ok merged =>
        obtain ⟨hdocker, -⟩ := mergeDockerConfig_ok hmerge
        obtain ⟨-, hvalid, -⟩ := buildDockerRunArgs_eq_ok_iff.mp hargs
        have hmergeable := mergeable_of_merge hmerge
        rw [resolved_of_merged hmerge, hdocker, hnone] at hvalid
        rw [hnone] at hmergeable
        refine ⟨hmergeable, ?_⟩
        rw [← hvalid]
        exact congrArg (List.forM · validateDockerArg) (List.append_nil _).symm
  · intro halone
    have hmerged : ∃ merged, mergeDockerConfig (payloadText payload "model_path")
        (payloadText payload "model_name") (payloadRuntimeConfig deps payload) none = .ok merged ∧
          merged.docker.image = ((payloadRuntimeConfig deps payload).getD {}).image ∧
          merged.docker.extraDockerArgs
            = ((payloadRuntimeConfig deps payload).getD {}).extraDockerArgs ++ [] :=
      merge_of_mergeable halone.mergeable
    obtain ⟨merged, hmerge, himage, hextra⟩ := hmerged
    rw [← hnone] at hmerge
    rw [resolved_of_merged hmerge]
    refine ⟨_, buildDockerRunArgs_eq_ok_iff.mpr ⟨?_, ?_, rfl⟩⟩
    · rw [himage]
      exact halone.mergeable.image
    · rw [hextra]
      rw [List.append_nil]
      exact halone.extraArgs

/-- A start on docker runs what the payload gives, unless the parameters of the instance cannot be read
while the runtime environment alone has a container run. -/
theorem starts_from_layers_iff (hdocker : payloadText payload "deploy_type" = "docker") :
    StartsFromLayers deps env w payload
      ↔ (givenOverrides deps payload).layer ≠ none ∨ ¬ RunsAlone deps payload := by
  cases hoverrides : (givenOverrides deps payload).layer with
  | some overrides =>
      exact iff_of_true (startsFromLayers_of_layers hdocker hoverrides) (Or.inl (by simp))
  | none =>
      have hnone : payloadOverrides deps payload = none := by
        rw [payloadOverrides_eq, hoverrides]
        rfl
      have hbuilt := built_alone_iff hnone
      constructor
      · rintro (⟨hruns, -⟩ | ⟨runtime, overrides, merged, dockerArgs, -, hlayer, -⟩)
        · right
          intro halone
          obtain ⟨dockerArgs, hargs⟩ := hbuilt.mpr halone
          rw [dockerRunsOf_of_built hdocker hargs] at hruns
          cases hruns
        · rw [hoverrides] at hlayer
          cases hlayer
      · rintro (hgiven | hnot)
        · exact absurd rfl hgiven
        · left
          cases hargs : buildDockerRunArgs (resolveDockerPayload deps payload) with
          | error message => exact fails_of_unbuilt hdocker hargs
          | ok dockerArgs => exact absurd (hbuilt.mp ⟨dockerArgs, hargs⟩) hnot

end Start

/-! ### A port that is out of range -/

/-- A start of a container whose instance asks for a name and for a port. -/
def portPayload (hostPort : Int) : Json :=
  .obj [("deploy_type", .str "docker"), ("instance_id", .str "i"), ("model_path", .str "/data/qwen"),
    ("model_name", .str "qwen"), ("runtime_params", .obj [("image", .str "vllm")]),
    ("params_json", .obj [("container_name", .str "chat"), ("host_port", .int hostPort)])]

theorem port_out_of_range_dropped :
    (givenOverrides Agent.noExternal (portPayload 70000)).layer = none ∧
    dockerRunsOf Agent.keptContainer (handleStart Agent.noExternal (portPayload 70000)) {}
      = [(["run", "--gpus", "all", "--ipc", "host", "-p", "18000:8000", "-v",
          "/data/qwen:/models/qwen:ro", "--detach", "vllm", "--model", "/models/qwen",
          "--served-model-name", "qwen", "--host", "0.0.0.0", "--port", "8000",
          "--gpu-memory-utilization", "", "--max-model-len", "4096", "--max-num-seqs", "8",
          "--tensor-parallel-size", "1"], 0)] ∧
    ¬ StartsFromLayers Agent.noExternal Agent.keptContainer {} (portPayload 70000) := by
  have hlayer : (givenOverrides Agent.noExternal (portPayload 70000)).layer = none := by rfl
  have hruns : dockerRunsOf Agent.keptContainer (handleStart Agent.noExternal (portPayload 70000)) {}
      = [(["run", "--gpus", "all", "--ipc", "host", "-p", "18000:8000", "-v",
          "/data/qwen:/models/qwen:ro", "--detach", "vllm", "--model", "/models/qwen",
          "--served-model-name", "qwen", "--host", "0.0.0.0", "--port", "8000",
          "--gpu-memory-utilization", "", "--max-model-len", "4096", "--max-num-seqs", "8",
          "--tensor-parallel-size", "1"], 0)] := by
    rw [Agent.dockerRunsOf_handleStart]
    rfl
  refine ⟨hlayer, hruns, ?_⟩
  rintro (⟨hnone, -⟩ | ⟨runtime, overrides, merged, dockerArgs, -, hgiven, -⟩)
  · rw [hruns] at hnone
    cases hnone
  · rw [hlayer] at hgiven
    cases hgiven

theorem port_in_range_heeded :
    StartsFromLayers Agent.noExternal Agent.keptContainer {} (portPayload 18001) := by
  have hlayer : (givenOverrides Agent.noExternal (portPayload 18001)).layer
      = some (some { containerName := "chat", hostPort := 18001 }) := by rfl
  refine (starts_from_layers_iff (by rfl)).mpr (Or.inl ?_)
  rw [hlayer]
  exact Option.some_ne_none _

end LightAI.System
