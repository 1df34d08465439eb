import LightAI.Agent.PublishedPort

/-!
# The model in the container

The file of the model is mounted read-only, and the backend is told where. The only other volume is that of
the cache, whose path in the container is taken as it is configured. Docker reads an access mode behind that
path, so that the text of a path can make the cache read-only too.
-/

namespace LightAI.Agent

open CommandLine (Options arguments values repeated pairs)

/-! ### Read-only volumes -/

/-- The value of `-v` ends with the mode of a read-only volume. -/
def readOnlyVolume (text : String) : Bool := ":ro".toList.isSuffixOf text.toList

/-- The path ends with the mode of a read-only volume, or is nothing but the mode. -/
def readOnlyPath (container : String) : Bool := container = "ro" || readOnlyVolume container

theorem readOnlyVolume_append (text : String) : readOnlyVolume (text ++ ":ro") = true := by
  unfold readOnlyVolume
  rw [List.isSuffixOf_iff_suffix, String.toList_append]
  exact List.suffix_append _ _

/-- A mode that begins in front of a path takes the whole path. -/
theorem mode_of_suffix {path : List Char} (h : ':' :: path <:+ ":ro".toList) :
    path = "ro".toList := by
  have hmode : ":ro".toList = ':' :: "ro".toList := by decide
  rw [hmode, List.suffix_cons_iff] at h
  rcases h with hwhole | hpart
  · exact (List.cons.inj hwhole).2
  · have hcolon : ':' ∈ "ro".toList := hpart.subset List.mem_cons_self
    exact absurd hcolon (by decide)

/-- The mode is read behind the path in the container. -/
theorem readOnlyVolume_pair (host container : String) :
    readOnlyVolume (host ++ ":" ++ container) = readOnlyPath container := by
  have hwhole : (host ++ ":" ++ container).toList
      = host.toList ++ ([':'] ++ container.toList) := by
    rw [String.toList_append, String.toList_append, List.append_assoc]
    rfl
  have htail : container.toList <:+ (host ++ ":" ++ container).toList := by
    rw [String.toList_append]
    exact List.suffix_append _ _
  rw [Bool.eq_iff_iff]
  unfold readOnlyPath readOnlyVolume
  rw [Bool.or_eq_true, decide_eq_true_eq, List.isSuffixOf_iff_suffix, List.isSuffixOf_iff_suffix]
  constructor
  · intro hmode
    by_cases hlong : 3 ≤ container.toList.length
    · exact Or.inr (List.suffix_of_suffix_length_le hmode htail hlong)
    · have hshort : (':' :: container.toList).length ≤ ":ro".toList.length := by
        have hmodeLength : ":ro".toList.length = 3 := by decide
        rw [List.length_cons]
        omega
      have hpart : (':' :: container.toList) <:+ ":ro".toList := by
        refine List.suffix_of_suffix_length_le ?_ hmode hshort
        rw [hwhole]
        exact List.suffix_append _ _
      left
      apply String.toList_inj.mp
      exact mode_of_suffix hpart
  · rintro (rfl | hpath)
    · rw [hwhole]
      exact List.suffix_append _ _
    · exact hpath.trans htail

/-! ### The theorem -/

/-- The value of `-v` for the cache, which is there when both of its paths are. -/
def cacheArgs (rt : DockerRuntimeConfig) : List String :=
  if Text.isBlank rt.cacheHostPath || Text.isBlank rt.cacheContainerPath then []
  else [Text.trim rt.cacheHostPath ++ ":" ++ Text.trim rt.cacheContainerPath]

theorem cacheVolumes_text (rt : DockerRuntimeConfig) :
    (cacheVolumes rt).map volumeText = cacheArgs rt := by
  unfold cacheVolumes cacheArgs
  by_cases hblank : (Text.isBlank rt.cacheHostPath || Text.isBlank rt.cacheContainerPath) = true
  · rw [if_pos hblank, if_pos hblank]
    rfl
  · rw [if_neg hblank, if_neg hblank, List.map_singleton]
    unfold volumeText
    rw [Text.trim_trim, Text.trim_trim]
    exact congrArg (fun text => [text]) (String.append_empty)

/-- The cache is mounted, under a path that makes it read-only. -/
def ReadOnlyCache (rt : DockerRuntimeConfig) : Prop :=
  Text.isBlank rt.cacheHostPath = false ∧ Text.isBlank rt.cacheContainerPath = false ∧
    readOnlyPath (Text.trim rt.cacheContainerPath) = true

theorem cacheArgs_readOnly (rt : DockerRuntimeConfig) :
    (cacheArgs rt).filter readOnlyVolume = [] ↔ ¬ ReadOnlyCache rt := by
  unfold cacheArgs ReadOnlyCache
  cases hhost : Text.isBlank rt.cacheHostPath with
  | true => exact iff_of_true rfl fun h => by cases h.1
  | false =>
      cases hcontainer : Text.isBlank rt.cacheContainerPath with
      | true => exact iff_of_true rfl fun h => by cases h.2.1
      | false =>
          rw [Bool.or_false, if_neg Bool.false_ne_true]
          cases hmode : readOnlyPath (Text.trim rt.cacheContainerPath) with
          | true =>
              refine iff_of_false (fun hnil => ?_) fun h => h ⟨rfl, rfl, rfl⟩
              rw [List.filter_cons_of_pos ((readOnlyVolume_pair _ _).trans hmode)] at hnil
              cases hnil
          | false =>
              refine iff_of_true ?_ fun h => by cases h.2.2
              refine List.filter_cons_of_neg ?_
              rw [readOnlyVolume_pair, hmode]
              exact Bool.false_ne_true

/-- What the command lines say of the model, of the cache and of the image. -/
structure Mounted (modelHostPath : String) (rt : DockerRuntimeConfig)
    (dockerArgs vllmArgs : List String) (container : String) : Prop where
  model : values "--model" (pairs vllmArgs) = [container]
  volumes : values "-v" (pairs dockerArgs.tail)
    = cacheArgs rt ++ [Text.trim modelHostPath ++ ":" ++ container ++ ":ro"]
  readOnly : (values "-v" (pairs dockerArgs.tail)).filter readOnlyVolume
      = [Text.trim modelHostPath ++ ":" ++ container ++ ":ro"] ↔ ¬ ReadOnlyCache rt
  image : dockerArgs.getLast? = some (Text.trim rt.image)

theorem model_mounted (deps : External) {modelHostPath modelName : String}
    {runtime : Option DockerRuntimeConfig} {overrides : Option DockerInstanceOverrides}
    {merged : DockerPayload} {dockerArgs : List String}
    (hmerge : mergeDockerConfig modelHostPath modelName runtime overrides = .ok merged)
    (hnone : NoExtraArgs (runtime.getD {}) (overrides.getD {}))
    (hargs : buildDockerRunArgs merged = .ok dockerArgs) :
    ∃ container, Mounted modelHostPath (runtime.getD {}) dockerArgs (buildVllmArgs deps merged)
      container := by
  obtain ⟨hdocker, hvllm⟩ := mergeDockerConfig_ok hmerge
  obtain ⟨hextraDocker, hextraVllm⟩ := extraArgs_nil hmerge hnone
  obtain ⟨-, -, hbuilt⟩ := buildDockerRunArgs_eq_ok_iff.mp hargs
  have hvolumes : values "-v" (pairs dockerArgs.tail)
      = cacheArgs (runtime.getD {}) ++ [Text.trim modelHostPath ++ ":"
          ++ Text.trim (containerModel modelHostPath (overrides.getD {})) ++ ":ro"] := by
    calc values "-v" (pairs dockerArgs.tail)
        = values "-v" (dockerOptions merged.docker)
            ++ values "-v" [("--detach", Text.trim merged.docker.image)] := by
          rw [pairs_dockerArgs hextraDocker hargs, CommandLine.values_append]
      _ = values "-v" (dockerOptions merged.docker) := List.append_nil _
      _ = _ := by rw [hdocker, values_volume_merged, cacheVolumes_text]
  refine ⟨_, ?_, hvolumes, ?_, ?_⟩
  · rw [pairs_vllmArgs deps hextraVllm, hvllm]
    exact values_model_merged deps modelHostPath modelName _ _
  · rw [hvolumes, List.filter_append, ← cacheArgs_readOnly]
    have hmodel := readOnlyVolume_append (Text.trim modelHostPath ++ ":"
      ++ Text.trim (containerModel modelHostPath (overrides.getD {})))
    rw [List.filter_cons_of_pos hmodel]
    exact List.append_left_eq_self
  · have hlast : dockerArgs = "run" :: (arguments (dockerOptions merged.docker)
        ++ merged.docker.extraDockerArgs ++ ["--detach"]) ++ [Text.trim merged.docker.image] := by
      rw [hbuilt, List.cons_append, List.append_assoc _ ["--detach"]]
      rfl
    rw [hlast, List.getLast?_concat, hdocker]
    rfl

/-! ### A cache -/

def cacheRuntime (cacheContainerPath : String) : DockerRuntimeConfig :=
  { image := "vllm", cacheHostPath := "/cache", cacheContainerPath }

/-- The path of the cache carries a mode. -/
theorem two_read_only_volumes : ∃ merged dockerArgs,
    mergeDockerConfig "/data/qwen" "qwen" (some (cacheRuntime "/root/.cache:ro")) none
      = .ok merged ∧
    buildDockerRunArgs merged = .ok dockerArgs ∧
    (values "-v" (pairs dockerArgs.tail)).filter readOnlyVolume
      = ["/cache:/root/.cache:ro", "/data/qwen:/models/qwen:ro"] :=
  ⟨_, _, rfl, rfl, by decide⟩

theorem one_read_only_volume : ∃ merged dockerArgs container,
    mergeDockerConfig "/data/qwen/ " "qwen" (some (cacheRuntime " /root/.cache")) none
      = .ok merged ∧
    buildDockerRunArgs merged = .ok dockerArgs ∧
    Mounted "/data/qwen/ " (cacheRuntime " /root/.cache") dockerArgs
      (buildVllmArgs noExternal merged) container := by
  have hmerge : ∃ merged, mergeDockerConfig "/data/qwen/ " "qwen"
      (some (cacheRuntime " /root/.cache")) none = .ok merged := ⟨_, rfl⟩
  obtain ⟨merged, hmerged⟩ := hmerge
  have hbuild : ∃ dockerArgs, buildDockerRunArgs merged = .ok dockerArgs := by
    rw [← Except.ok.inj hmerged]
    exact ⟨_, rfl⟩
  obtain ⟨dockerArgs, hargs⟩ := hbuild
  obtain ⟨container, hmounted⟩ :=
    model_mounted noExternal hmerged ⟨rfl, rfl, rfl, rfl⟩ hargs
  exact ⟨merged, dockerArgs, container, hmerged, hargs, hmounted⟩

end LightAI.Agent
