import LightAI.Web.RuntimePanel
import Mathlib.Tactic.MkIffOfInductiveProp

/-!
# Opening and saving a runtime environment

Saving a runtime environment that has just been opened should send the parameters that the row has. What is
written with a fallback comes back, and so does what a toggle shows, since opening sets the toggles. The extra
arguments do not: opening empties their texts, and the next save erases them. What was blank comes back as a
default path of the cache, or as the directory of the models that the panel showed last.
-/

namespace LightAI.Web

open JsValue FormText

section Keys

variable {fields : DockerRuntimeFields} {toggles : RuntimeToggles} {ollama : OllamaFields}
  {backend extraBackendText extraDockerText : String}

theorem keys_dockerDefaults : (dockerDefaults fields toggles).map Prod.fst
    = ["host", "port", "gpu_memory_utilization", "max_model_len", "max_num_seqs", "tensor_parallel_size"] := rfl

theorem keys_assembleDockerRuntimeParams :
    (assembleDockerRuntimeParams fields backend toggles extraBackendText extraDockerText).map Prod.fst
      = ["backend", "deploy_type", "image", "container_port", "gpu", "ipc", "defaults", "cache_host_path",
        "cache_container_path", "extra_backend_args", "extra_docker_args"] := rfl

theorem keys_ollamaDefaults : (ollamaDefaults ollama).map Prod.fst
    = ["host", "port", "max_loaded_models", "num_parallel", "max_queue", "keep_alive", "context_length",
      "models_dir"] := rfl

theorem nodup_dockerDefaults : ((dockerDefaults fields toggles).map Prod.fst).Nodup := by
  rw [keys_dockerDefaults]
  decide +kernel

theorem nodup_assembleDockerRuntimeParams :
    ((assembleDockerRuntimeParams fields backend toggles extraBackendText extraDockerText).map
      Prod.fst).Nodup := by
  rw [keys_assembleDockerRuntimeParams]
  decide +kernel

theorem nodup_ollamaDefaults : ((ollamaDefaults ollama).map Prod.fst).Nodup := by
  rw [keys_ollamaDefaults]
  decide +kernel

theorem get_dockerDefaults (key : String) : get (some (record (dockerDefaults fields toggles))) key
    = ((dockerDefaults fields toggles).lookup key).join := get_record nodup_dockerDefaults key

theorem get_assembled (key : String) :
    get (some (record (assembleDockerRuntimeParams fields backend toggles extraBackendText extraDockerText))) key
      = ((assembleDockerRuntimeParams fields backend toggles extraBackendText extraDockerText).lookup key).join :=
  get_record nodup_assembleDockerRuntimeParams key

end Keys

section Args

variable {conversions : Conversions}

theorem argsToLines_texts (items : List String) :
    argsToLines conversions (texts items) = some (Text.join items) := by
  have hjoined : (items.map str).map (joined conversions) = items := by
    rw [List.map_map]
    exact List.map_id items
  have hlines : argsToLines conversions (texts items)
      = some (Text.join ((items.map str).map (joined conversions))) := rfl
  rw [hlines, hjoined]

/-- A list that was written only if its toggle was on can be joined in any case. -/
theorem isSome_argsToLines_shown (conversions : Conversions) (shown : Bool) (items : List String) :
    ∃ lines, argsToLines conversions (orElse (if shown then some (texts items) else none) (arr []))
      = some lines := by
  cases shown with
  | false => exact ⟨_, argsToLines_texts []⟩
  | true => exact ⟨_, argsToLines_texts items⟩

theorem moreThan_lengthOf_texts (shown : Bool) (items : List String) :
    moreThan conversions (lengthOf (if shown then some (texts items) else none)) 0
      = (shown && !items.isEmpty) := by
  cases shown with
  | false => rfl
  | true =>
      cases items with
      | nil => rfl
      | cons first items =>
          have hpos : (0 : ℚ) < ((texts (first :: items)).asArray.map List.length).getD 0 := by
            have hlength : ((texts (first :: items)).asArray.map List.length).getD 0 = items.length + 1 := by
              rw [← List.length_map (f := str)]
              rfl
            rw [hlength]
            exact_mod_cast Nat.succ_pos items.length
          exact decide_eq_true hpos

end Args

section Shown

variable {shown : Bool} {value : Option JsValue} {usual : JsValue}

theorem any_truthy_shown :
    (if shown then some (orElse value (str "")) else none).any truthy = (shown && value.any truthy) := by
  have hempty : (str "").truthy = false := by decide +kernel
  cases shown with
  | false => rfl
  | true =>
      rw [if_pos rfl, Option.any_some, Bool.true_and]
      cases value with
      | none => exact hempty
      | some found =>
          rw [Option.any_some]
          by_cases hfound : found.truthy
          · rw [orElse_of_truthy hfound]
          · rw [Bool.not_eq_true] at hfound
            have hfallback : orElse (some found) (str "") = str "" := by
              apply orElse_of_not_truthy
              intro other hother
              rw [← Option.some.inj hother]
              exact hfound
            rw [hfallback, hempty, hfound]

theorem isSome_shown (husual : usual.truthy) :
    ((if shown then some (orElse value usual) else none).filter fun found => !found.isNull).isSome = shown := by
  cases shown with
  | false => rfl
  | true =>
      rw [if_pos rfl, Option.filter_some, isNull_of_truthy (truthy_orElse husual)]
      rfl

/-- A number that a toggle shows is written with the usual one for it, and read and written again as it is. -/
theorem shown_reread (husual : usual.truthy) :
    (if shown then
        some (orElse (some (coalesce (if shown then some (orElse value usual) else none) usual)) usual)
      else none)
      = if shown then some (orElse value usual) else none := by
  cases shown with
  | false => rfl
  | true =>
      have hwritten : (orElse value usual).truthy := truthy_orElse husual
      rw [if_pos rfl, if_pos rfl, coalesce_of_truthy hwritten, orElse_some_orElse husual]

theorem sameFields_host_iff {host : JsValue} (hhost : host.truthy) (hleaf : ∀ fields, host ≠ obj fields) :
    SameFields (some (orElse value host)) (some (orElse (some host) host))
      ↔ ∀ found ∈ value, found.truthy → found = host := by
  have hleaf : ∀ fields, some host ≠ some (obj fields) := fun fields heq => hleaf fields (Option.some.inj heq)
  rw [orElse_of_truthy hhost]
  constructor
  · intro hsame found hfound htruthy
    obtain rfl : value = some found := hfound
    have heq := Option.some.inj (eq_of_sameFields hleaf hsame)
    rwa [orElse_of_truthy htruthy] at heq
  · intro hall
    have hor : orElse value host = host := by
      cases hfound : value.filter truthy with
      | none =>
          unfold orElse
          rw [hfound]
          rfl
      | some found =>
          obtain ⟨hvalue, htruthy⟩ := Option.filter_eq_some_iff.mp hfound
          rw [orElse_of_filter hfound]
          exact hall found hvalue htruthy
    rw [hor]
    exact SameFields.refl _

/-- A path of the cache comes back if its toggle does and it is not empty: the usual one is read for an empty
one. -/
theorem sameFields_cachePath_iff {again : Bool} {path : String} (hpath : path ≠ "") (hagain : again → shown) :
    SameFields (if shown then some (orElse value (str "")) else none)
        (if again then
          some (orElse
            (some (orElse (if shown then some (orElse value (str "")) else none) (str path))) (str ""))
        else none)
      ↔ (shown → again ∧ value.any truthy) := by
  cases shown with
  | false =>
      have hoff : again = false := Bool.eq_false_iff.mpr fun hon => Bool.false_ne_true (hagain hon)
      rw [hoff]
      exact iff_of_true (SameFields.refl _) (fun hshown => absurd hshown Bool.false_ne_true)
  | true =>
      rw [if_pos rfl, forall_prop_of_true rfl]
      cases again with
      | false =>
          have hoff : ¬(false = true) := Bool.false_ne_true
          rw [if_neg hoff, sameFields_none_iff]
          exact iff_of_false (Option.some_ne_none _) fun hboth => hoff hboth.1
      | true =>
          rw [if_pos rfl, and_iff_right rfl]
          by_cases htruthy : value.any truthy
          · obtain ⟨found, rfl, hfound⟩ := (Option.any_eq_true _ _).mp htruthy
            rw [orElse_of_truthy hfound, orElse_of_truthy hfound, orElse_of_truthy hfound]
            exact iff_of_true (SameFields.refl _) htruthy
          · have hempty : orElse value (str "") = str "" := by
              apply orElse_of_not_truthy
              intro found hfound
              rw [Bool.eq_false_iff]
              exact fun hon => htruthy ((Option.any_eq_true _ _).mpr ⟨found, hfound, hon⟩)
            have hblank : ∀ found ∈ some (str ""), found.truthy = false := by
              intro found hfound
              rw [← Option.some.inj hfound]
              decide +kernel
            have husual : (str path).truthy := decide_eq_true hpath
            rw [hempty, orElse_of_not_truthy hblank, orElse_of_truthy husual]
            refine iff_of_false ?_ htruthy
            intro hsame
            have hleaf : ∀ fields, some (str path) ≠ some (obj fields) := by
              intro fields heq
              cases heq
            have heq := eq_of_sameFields hleaf hsame
            exact hpath (JsValue.str.inj (Option.some.inj heq)).symm

/-- Extra arguments do not come back: their text is empty when the form is opened. -/
theorem sameFields_extraArgs_iff {text : String} :
    SameFields (if shown then some (texts (linesToArgs text)) else none)
        (if shown && !(linesToArgs text).isEmpty then some (texts (linesToArgs "")) else none)
      ↔ shown = false := by
  cases shown with
  | false => exact iff_of_true (SameFields.refl _) rfl
  | true =>
      refine iff_of_false ?_ Bool.false_ne_true.symm
      rw [if_pos rfl, Bool.true_and]
      intro hsame
      by_cases hnil : linesToArgs text = []
      · rw [hnil] at hsame
        exact absurd hsame.isSome_eq Bool.false_ne_true.symm
      · have hshown : (!(linesToArgs text).isEmpty) = true := by
          rw [Bool.not_eq_true', List.isEmpty_eq_false_iff]
          exact hnil
        rw [if_pos hshown] at hsame
        have hleaf : ∀ fields, some (texts (linesToArgs "")) ≠ some (obj fields) := by
          intro fields heq
          cases heq
        have heq := JsValue.arr.inj (Option.some.inj (eq_of_sameFields hleaf hsame))
        exact hnil (List.map_eq_nil_iff.mp heq)

end Shown

section Assembled

variable {conversions : Conversions} {fields : DockerRuntimeFields} {toggles : RuntimeToggles}
  {backend extraBackendText extraDockerText : String} {paramsJson : JsonText}

/-- What the fields are after the assembled parameters have been read, but for the texts of the arguments. -/
theorem parse_assembled (conversions : Conversions) (hreadable : paramsJson.readable
      = some (record (assembleDockerRuntimeParams fields backend toggles extraBackendText extraDockerText))) :
    ∃ extraDockerArgs extraBackendArgs : String, parseDockerRuntimeParams conversions paramsJson
      = { image := some (orElse fields.image (str "vllm/vllm-openai:latest"))
          gpu := some (orElse fields.gpu (str "all"))
          ipc := some (orElse fields.ipc (str "host"))
          containerPort := some (orElse fields.containerPort (num 8000))
          cacheHostPath := some
            (orElse (if toggles.showCache then some (orElse fields.cacheHostPath (str "")) else none)
              (str "/data/vllm-cache"))
          cacheContainerPath := some
            (orElse (if toggles.showCache then some (orElse fields.cacheContainerPath (str "")) else none)
              (str "/root/.cache/huggingface"))
          defaultHost := some (str "0.0.0.0")
          defaultPort := some (orElse fields.containerPort (num 8000))
          gpuMemoryUtilization := some
            (coalesce
              (if toggles.showGpuMem then some (orElse fields.gpuMemoryUtilization (num (1 / 2))) else none)
              (num (1 / 2)))
          maxModelLen := some
            (coalesce (if toggles.showMaxModelLen then some (orElse fields.maxModelLen (num 4096)) else none)
              (num 4096))
          maxNumSeqs := some
            (coalesce (if toggles.showMaxNumSeqs then some (orElse fields.maxNumSeqs (num 8)) else none) (num 8))
          tensorParallelSize := some
            (coalesce
              (if toggles.showTensorParallelSize then some (orElse fields.tensorParallelSize (num 1)) else none)
              (num 1))
          extraDockerArgs := extraDockerArgs
          extraBackendArgs := extraBackendArgs } := by
  obtain ⟨dockerLines, hdocker⟩ :=
    isSome_argsToLines_shown conversions toggles.showExtraDocker (linesToArgs extraDockerText)
  obtain ⟨backendLines, hbackend⟩ :=
    isSome_argsToLines_shown conversions toggles.showExtraBackend (linesToArgs extraBackendText)
  refine ⟨dockerLines, backendLines, ?_⟩
  unfold parseDockerRuntimeParams
  rw [hreadable]
  simp only [get_assembled]
  simp only [assembleDockerRuntimeParams, List.lookup, String.reduceBEq, Option.join_some]
  simp only [get_dockerDefaults]
  simp only [dockerDefaults, List.lookup, String.reduceBEq, Option.join_some]
  have himage : (str "vllm/vllm-openai:latest").truthy := by decide +kernel
  have hgpu : (str "all").truthy := by decide +kernel
  have hipc : (str "host").truthy := by decide +kernel
  have hport : (num 8000).truthy := by decide +kernel
  rw [hdocker, hbackend]
  simp only [orElse_some_orElse himage, orElse_some_orElse hgpu, orElse_some_orElse hipc,
    orElse_some_orElse hport]

/-- What the toggles are after the assembled parameters have been read. -/
theorem shownToggles_assembled :
    shownToggles conversions
        (some (record (assembleDockerRuntimeParams fields backend toggles extraBackendText extraDockerText)))
      = { showCache := toggles.showCache
            && (fields.cacheHostPath.any truthy || fields.cacheContainerPath.any truthy)
          showGpuMem := toggles.showGpuMem
          showMaxModelLen := toggles.showMaxModelLen
          showMaxNumSeqs := toggles.showMaxNumSeqs
          showExtraBackend := toggles.showExtraBackend && !(linesToArgs extraBackendText).isEmpty
          showExtraDocker := toggles.showExtraDocker && !(linesToArgs extraDockerText).isEmpty } := by
  unfold shownToggles
  simp only [get_assembled]
  simp only [assembleDockerRuntimeParams, List.lookup, String.reduceBEq, Option.join_some]
  simp only [get_dockerDefaults]
  simp only [dockerDefaults, List.lookup, String.reduceBEq, Option.join_some,
    moreThan_lengthOf_texts]
  have hhalf : (num (1 / 2)).truthy := by decide +kernel
  have hlength : (num 4096).truthy := by decide +kernel
  have hseqs : (num 8).truthy := by decide +kernel
  rw [any_truthy_shown, any_truthy_shown, isSome_shown hhalf, isSome_shown hlength, isSome_shown hseqs,
    ← Bool.and_or_distrib_left]

/-- A runtime environment for containers whose parameters come back as they are written. -/
@[mk_iff]
structure DockerRuntimeRestored (fields : DockerRuntimeFields) (toggles : PanelToggles) : Prop where
  defaultHost : ∀ host ∈ fields.defaultHost, host.truthy → host = str "0.0.0.0"
  cachePaths : toggles.showCache → fields.cacheHostPath.any truthy ∧ fields.cacheContainerPath.any truthy
  showExtraBackend : toggles.showExtraBackend = false
  showExtraDocker : toggles.showExtraDocker = false

/-- The defaults of instances come back but for the host. -/
theorem sameFields_dockerDefaults_iff (conversions : Conversions) {toggles : PanelToggles}
    (hreadable : paramsJson.readable = some (record
      (assembleDockerRuntimeParams fields backend { toggles with } extraBackendText extraDockerText))) :
    SameFields (some (record (dockerDefaults fields { toggles with })))
        (some (record (dockerDefaults (parseDockerRuntimeParams conversions paramsJson)
          { shownToggles conversions paramsJson.readable with })))
      ↔ ∀ host ∈ fields.defaultHost, host.truthy → host = str "0.0.0.0" := by
  obtain ⟨dockerLines, backendLines, hparsed⟩ := parse_assembled conversions hreadable
  rw [sameFields_record_iff (keys_dockerDefaults.trans keys_dockerDefaults.symm) nodup_dockerDefaults, hparsed,
    hreadable, shownToggles_assembled]
  have hhalf : (num (1 / 2)).truthy := by decide +kernel
  have hlength : (num 4096).truthy := by decide +kernel
  have hseqs : (num 8).truthy := by decide +kernel
  have hport : (num 8000).truthy := by decide +kernel
  simp only [dockerDefaults, orElse_some_orElse hport, shown_reread hhalf, shown_reread hlength,
    shown_reread hseqs, List.forall₂_cons, SameFields.refl,
    List.forall₂_nil_left_iff, and_true, Bool.false_eq_true, if_false]
  exact sameFields_host_iff (by decide +kernel) fun _ heq => JsValue.noConfusion heq

theorem sameFields_assembled_iff {toggles : PanelToggles}
    (hreadable : paramsJson.readable = some (record
      (assembleDockerRuntimeParams fields backend { toggles with } extraBackendText extraDockerText))) :
    SameFields
        (some (record
          (assembleDockerRuntimeParams fields backend { toggles with } extraBackendText extraDockerText)))
        (some (record
          (assembleDockerRuntimeParams (parseDockerRuntimeParams conversions paramsJson) backend
            { shownToggles conversions paramsJson.readable with } "" "")))
      ↔ DockerRuntimeRestored fields toggles := by
  obtain ⟨dockerLines, backendLines, hparsed⟩ := parse_assembled conversions hreadable
  have hdefaults := sameFields_dockerDefaults_iff conversions hreadable
  rw [sameFields_record_iff (keys_assembleDockerRuntimeParams.trans keys_assembleDockerRuntimeParams.symm)
    nodup_assembleDockerRuntimeParams]
  simp only [assembleDockerRuntimeParams, List.forall₂_cons, hdefaults, SameFields.refl,
    List.forall₂_nil_left_iff, true_and, and_true]
  rw [hparsed, hreadable, shownToggles_assembled, dockerRuntimeRestored_iff]
  have himage : (str "vllm/vllm-openai:latest").truthy := by decide +kernel
  have hgpu : (str "all").truthy := by decide +kernel
  have hipc : (str "host").truthy := by decide +kernel
  have hport : (num 8000).truthy := by decide +kernel
  simp only [orElse_some_orElse himage, orElse_some_orElse hgpu, orElse_some_orElse hipc,
    orElse_some_orElse hport, SameFields.refl, true_and]
  have hagain : (toggles.showCache && (fields.cacheHostPath.any truthy || fields.cacheContainerPath.any truthy))
      → toggles.showCache := fun hon => (Bool.and_eq_true_iff.mp hon).1
  rw [sameFields_cachePath_iff (by decide) hagain, sameFields_cachePath_iff (by decide) hagain,
    sameFields_extraArgs_iff, sameFields_extraArgs_iff, ← and_assoc (a := _ → _), ← forall_and]
  refine and_congr_right fun _ => and_congr_left fun _ => ?_
  -- where both paths are written the toggle comes back
  constructor
  · intro hback hshown
    exact ⟨(hback hshown).1.2, (hback hshown).2.2⟩
  · intro hpaths hshown
    obtain ⟨hhost, hcontainer⟩ := hpaths hshown
    have hon : (toggles.showCache
        && (fields.cacheHostPath.any truthy || fields.cacheContainerPath.any truthy)) = true := by
      rw [hshown, hhost]
      rfl
    exact ⟨⟨hon, hhost⟩, hon, hcontainer⟩

end Assembled

section Ollama

variable {ollama previous : OllamaFields} {params : Option JsValue}

theorem text_reread {text fallback : String} (hfallback : fallback ≠ "") (kept : String) :
    orElse (some (str (textOr (some (orElse (some (str text)) (str fallback))) kept))) (str fallback)
      = orElse (some (str text)) (str fallback) := by
  have htruthy : (str fallback).truthy := decide_eq_true hfallback
  by_cases hempty : text = ""
  · have hnone : ∀ found ∈ some (str text), found.truthy = false := by
      intro found hfound
      rw [← Option.some.inj hfound, hempty]
      decide +kernel
    have hread : textOr (some (str fallback)) kept = fallback := rfl
    rw [orElse_of_not_truthy hnone, hread, orElse_of_truthy htruthy]
  · have htext : (str text).truthy := decide_eq_true hempty
    have hread : textOr (some (str text)) kept = text := rfl
    rw [orElse_of_truthy htext, hread, orElse_of_truthy htext]

theorem number_reread {number kept : Option ℚ} {fallback : ℚ} (hfallback : fallback ≠ 0) :
    orElse ((((some (orElse (number.map num) (num fallback))).bind asNumber).or kept).map num) (num fallback)
      = orElse (number.map num) (num fallback) := by
  have htruthy : (num fallback).truthy := decide_eq_true hfallback
  have hnumber : ∃ written, orElse (number.map num) (num fallback) = num written := by
    cases number with
    | none => exact ⟨fallback, rfl⟩
    | some value =>
        by_cases hzero : value = 0
        · refine ⟨fallback, orElse_of_not_truthy ?_⟩
          intro found hfound
          rw [← Option.some.inj hfound, hzero]
          rfl
        · exact ⟨value, orElse_of_truthy (decide_eq_true hzero)⟩
  obtain ⟨written, hwritten⟩ := hnumber
  have hread : (((some (num written)).bind asNumber).or kept).map num = some (num written) := rfl
  have hpass : (num written).truthy := hwritten ▸ truthy_orElse htruthy
  rw [hwritten, hread, orElse_of_truthy hpass]

theorem sameFields_modelsDir_iff {text kept : String} :
    SameFields (nonBlank text) (nonBlank (textOr (nonBlank text) kept)) ↔ (trim text = "" → trim kept = "") := by
  by_cases hblank : trim text = ""
  · have hnone : nonBlank text = none := if_pos hblank
    have hread : textOr none kept = kept := rfl
    rw [hnone, hread, forall_prop_of_true hblank]
    constructor
    · intro hsame
      by_contra hkept
      have hsome : nonBlank kept = some (str (trim kept)) := if_neg hkept
      rw [hsome] at hsame
      exact absurd hsame.isSome_eq Bool.false_ne_true
    · intro hkept
      have hnone : nonBlank kept = none := if_pos hkept
      rw [hnone]
      exact SameFields.refl _
  · have hsome : nonBlank text = some (str (trim text)) := if_neg hblank
    have hread : nonBlank (textOr (some (str (trim text))) kept) = some (str (trim text)) := by
      have htext : textOr (some (str (trim text))) kept = trim text := rfl
      unfold nonBlank
      rw [htext, trim_trim, if_neg hblank]
    rw [hsome, hread]
    exact iff_of_true (SameFields.refl _) fun hempty => absurd hempty hblank

/-- The fields for Ollama come back, but for a directory of models that was blank: the one that the panel
showed last stays. -/
theorem sameFields_ollama_iff
    (hparams : params = some (record [("defaults", some (record (ollamaDefaults ollama)))])) :
    SameFields (some (record [("defaults", some (record (ollamaDefaults ollama)))]))
        (some (record [("defaults", some (record (ollamaDefaults (readOllamaFields previous params))))]))
      ↔ (trim ollama.modelsDir = "" → trim previous.modelsDir = "") := by
  have hgiven (key : String) : get (get params "defaults") key = ((ollamaDefaults ollama).lookup key).join := by
    rw [hparams]
    exact get_record nodup_ollamaDefaults key
  rw [sameFields_record_singleton_iff,
    sameFields_record_iff (keys_ollamaDefaults.trans keys_ollamaDefaults.symm) nodup_ollamaDefaults]
  unfold readOllamaFields
  simp only [hgiven]
  simp only [ollamaDefaults, List.lookup, String.reduceBEq, Option.join_some, List.forall₂_cons,
    List.forall₂_nil_left_iff, and_true, sameFields_modelsDir_iff]
  rw [text_reread (by decide), text_reread (by decide), number_reread (by decide), number_reread (by decide),
    number_reread (by decide), number_reread (by decide), number_reread (by decide)]
  simp only [SameFields.refl, true_and]

end Ollama

/-- The row of a runtime environment that was saved with this payload, as far as its parameters depend on it. -/
structure RuntimeSavedWith (sent : RuntimePayload) (row : RuntimeRow) : Prop where
  backend : row.backend = sent.backend
  deployType : row.deployType = sent.deployType
  paramsJson : row.paramsJson = .keeping sent.paramsJson

/-- The panels whose parameters come back as they are written, where `reopened` is the panel that the runtime
environment is opened over. -/
def RuntimeRestored (panel reopened : RuntimePanel) : Prop :=
  if panel.form.deployType = "docker" then DockerRuntimeRestored panel.dockerRt panel.rtToggles
  else if panel.form.backend = "ollama" then
    trim panel.ollamaRt.modelsDir = "" → trim reopened.ollamaRt.modelsDir = ""
  else trim panel.form.extraBackendArgs = ""

section Reopening

variable {conversions : Conversions} {panel reopened : RuntimePanel} {row : RuntimeRow}
  {sent resent : RuntimePayload}

theorem eq_payload_of_submit (hsent : panel.submit conversions = .ok sent) : sent = panel.payload := by
  unfold RuntimePanel.submit at hsent
  split at hsent
  · cases hsent
  · split at hsent
    · cases hsent
    · exact (Except.ok.inj hsent).symm

theorem currentRuntimeParamsJson_docker (hdocker : panel.form.deployType = "docker") :
    currentRuntimeParamsJson panel
      = some (record (assembleDockerRuntimeParams panel.dockerRt panel.form.backend { panel.rtToggles with }
          panel.form.extraBackendArgs panel.form.extraDockerArgs)) := if_pos hdocker

theorem currentRuntimeParamsJson_ollama (hdocker : panel.form.deployType ≠ "docker")
    (hollama : panel.form.backend = "ollama") :
    currentRuntimeParamsJson panel
      = some (record [("defaults", some (record (ollamaDefaults panel.ollamaRt)))]) := by
  unfold currentRuntimeParamsJson
  rw [if_neg hdocker, if_pos hollama]

theorem currentRuntimeParamsJson_other (hdocker : panel.form.deployType ≠ "docker")
    (hollama : panel.form.backend ≠ "ollama") :
    currentRuntimeParamsJson panel
      = if trim panel.form.extraBackendArgs = "" then none
        else some (record [("extra_backend_args", some (texts (linesToArgs panel.form.extraBackendArgs)))]) := by
  unfold currentRuntimeParamsJson
  rw [if_neg hdocker, if_neg hollama]

theorem readable_keeping {params : Option JsValue} {fields : List (String × Option JsValue)}
    {paramsJson : JsonText} (hkept : paramsJson = .keeping params) (hparams : params = some (record fields)) :
    paramsJson.readable = some (record fields) := by
  rw [hkept, hparams, readable_record]

/-- Saving a runtime environment that has just been opened sends the parameters that were saved, with the same
fields and values, exactly in the cases of `RuntimeRestored`. -/
theorem resent_runtime_params_iff (hsent : panel.submit conversions = .ok sent)
    (hsaved : RuntimeSavedWith sent row)
    (hresent : (reopened.openEdit conversions row).submit conversions = .ok resent) :
    SameFields sent.paramsJson resent.paramsJson ↔ RuntimeRestored panel reopened := by
  obtain rfl := eq_payload_of_submit hsent
  obtain rfl := eq_payload_of_submit hresent
  have hkept : row.paramsJson = .keeping (currentRuntimeParamsJson panel) := hsaved.paramsJson
  have hdeploy : (reopened.openEdit conversions row).form.deployType = panel.form.deployType :=
    hsaved.deployType
  have hbackend : (reopened.openEdit conversions row).form.backend = panel.form.backend := hsaved.backend
  show SameFields (currentRuntimeParamsJson panel)
      (currentRuntimeParamsJson (reopened.openEdit conversions row)) ↔ _
  unfold RuntimeRestored
  by_cases hdocker : panel.form.deployType = "docker"
  · have hparams := currentRuntimeParamsJson_docker hdocker
    have hreadable := readable_keeping hkept hparams
    have hrow : row.deployType = "docker" := hdeploy.trans hdocker
    have hfields : (reopened.openEdit conversions row).dockerRt
        = parseDockerRuntimeParams conversions row.paramsJson := if_pos hrow
    have htoggles : (reopened.openEdit conversions row).rtToggles
        = shownToggles conversions row.paramsJson.readable := by
      refine if_pos ⟨hrow, ?_⟩
      rw [hreadable]
      rfl
    rw [if_pos hdocker, currentRuntimeParamsJson_docker (hdeploy.trans hdocker), hparams, hbackend, hfields,
      htoggles]
    exact sameFields_assembled_iff hreadable
  · have hother : (reopened.openEdit conversions row).form.deployType ≠ "docker" := hdeploy ▸ hdocker
    rw [if_neg hdocker]
    by_cases hollama : panel.form.backend = "ollama"
    · have hparams := currentRuntimeParamsJson_ollama hdocker hollama
      have hreadable := readable_keeping hkept hparams
      have hrow : row.backend = "ollama" := hbackend.trans hollama
      have hfields : (reopened.openEdit conversions row).ollamaRt
          = readOllamaFields reopened.ollamaRt row.paramsJson.readable := if_pos hrow
      rw [if_pos hollama, currentRuntimeParamsJson_ollama hother (hbackend.trans hollama), hparams, hfields]
      exact sameFields_ollama_iff hreadable
    · have hblank : trim (reopened.openEdit conversions row).form.extraBackendArgs = "" := rfl
      rw [if_neg hollama, currentRuntimeParamsJson_other hdocker hollama,
        currentRuntimeParamsJson_other hother (hbackend ▸ hollama), if_pos hblank, sameFields_none_iff]
      by_cases hargs : trim panel.form.extraBackendArgs = ""
      · rw [if_pos hargs]
        exact iff_of_true rfl hargs
      · rw [if_neg hargs]
        exact iff_of_false (Option.some_ne_none _) hargs

end Reopening

/-- The panel as it saves a runtime environment for containers with these extra arguments. -/
def dockerPanel (extraBackendArgs : String) : RuntimePanel :=
  { form :=
      { nodeId := "node", name := "vllm", backend := "vllm", deployType := "docker",
        extraBackendArgs := extraBackendArgs }
    rtToggles := { showMaxModelLen := true, showExtraBackend := extraBackendArgs ≠ "" } }

/-- The row of the runtime environment that was saved. -/
def dockerRow (extraBackendArgs : String) : RuntimeRow :=
  { id := "runtime", nodeId := some "node", name := "vllm", backend := "vllm", deployType := "docker",
    version := none, binaryPath := none, dockerImage := some "vllm/vllm-openai:latest", workingDir := none,
    logDir := none, enabled := true,
    paramsJson := .keeping (currentRuntimeParamsJson (dockerPanel extraBackendArgs)) }

theorem submit_of_valid {conversions : Conversions} {panel : RuntimePanel} (hrunning : panel.running = [])
    (hvalid : panel.validateForm conversions = none) : panel.submit conversions = .ok panel.payload := by
  unfold RuntimePanel.submit
  rw [if_neg (not_not_intro hrunning), hvalid]

theorem resent_runtime_params_iff_example :
    SameFields (currentRuntimeParamsJson (dockerPanel ""))
      (currentRuntimeParamsJson ((dockerPanel "").openEdit ⟨fun _ => none, fun _ => ""⟩ (dockerRow ""))) := by
  have hsent : (dockerPanel "").submit ⟨fun _ => none, fun _ => ""⟩ = .ok (dockerPanel "").payload :=
    submit_of_valid rfl (by decide +kernel)
  have hresent : ((dockerPanel "").openEdit ⟨fun _ => none, fun _ => ""⟩ (dockerRow "")).submit
      ⟨fun _ => none, fun _ => ""⟩
        = .ok ((dockerPanel "").openEdit ⟨fun _ => none, fun _ => ""⟩ (dockerRow "")).payload :=
    submit_of_valid rfl (by decide +kernel)
  refine (resent_runtime_params_iff hsent ⟨rfl, rfl, rfl⟩ hresent).mpr ?_
  have hdocker : (dockerPanel "").form.deployType = "docker" := rfl
  unfold RuntimeRestored
  rw [if_pos hdocker]
  exact
    { defaultHost := fun host hhost _ => (Option.some.inj hhost).symm
      cachePaths := fun hshown => absurd hshown Bool.false_ne_true
      showExtraBackend := by decide +kernel
      showExtraDocker := rfl }

/-- The extra arguments are erased when the runtime environment is saved again. -/
theorem extra_args_erased :
    ¬ ∀ (conversions : Conversions) (panel reopened : RuntimePanel) (row : RuntimeRow)
        (sent resent : RuntimePayload), panel.submit conversions = .ok sent → RuntimeSavedWith sent row →
        (reopened.openEdit conversions row).submit conversions = .ok resent →
        SameFields sent.paramsJson resent.paramsJson := by
  intro hall
  have hsame := hall ⟨fun _ => none, fun _ => ""⟩ (dockerPanel "--enforce-eager") (dockerPanel "--enforce-eager")
    (dockerRow "--enforce-eager") _ _ (submit_of_valid rfl (by decide +kernel)) ⟨rfl, rfl, rfl⟩
    (submit_of_valid rfl (by decide +kernel))
  have hdocker : (dockerPanel "--enforce-eager").form.deployType = "docker" := rfl
  have hparams := currentRuntimeParamsJson_docker hdocker
  have hkept : (dockerRow "--enforce-eager").paramsJson
      = .keeping (currentRuntimeParamsJson (dockerPanel "--enforce-eager")) := rfl
  have hrestored := (sameFields_assembled_iff (readable_keeping hkept hparams)).mp hsame
  have hshown : (dockerPanel "--enforce-eager").rtToggles.showExtraBackend = true := by decide +kernel
  exact absurd hrestored.showExtraBackend (hshown ▸ Bool.false_ne_true.symm)

end LightAI.Web
