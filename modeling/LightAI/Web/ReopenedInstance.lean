import LightAI.Web.InstancesPanel
import Mathlib.Tactic.MkIffOfInductiveProp

/-!
# Opening and saving an instance

Saving an instance that has just been opened should send the parameters that the row has. It does for every text
and every list of arguments. A number that was not written comes back as the value that reading fills in for it:
a context size of 0 becomes 4096, a cleared port of the host 18000. The port of a container that the instance
sets for itself comes back as that of the runtime environment.
-/

namespace LightAI.Web

open JsValue FormText

/-- Where an instance runs, as far as its parameters depend on it. -/
inductive ParamsKind where
  | docker
  | ollama
  | program
deriving DecidableEq

def paramsKind (runtime : Option RuntimeEntry) (backend : String) : ParamsKind :=
  if runtime.any (·.deployType = "docker") then .docker
  else if runtime.any (·.backend = "ollama") ∨ backend = "ollama" then .ollama
  else .program

def writtenParams (conversions : Conversions) (kind : ParamsKind) (form : InstanceForm) (overrides : Overrides) :
    List (String × Option JsValue) :=
  match kind with
  | .docker => buildDockerInstanceParams form overrides
  | .ollama => buildOllamaParams form
  | .program => programParams conversions form

section Written

variable {conversions : Conversions} {panel : InstancesPanel} {form : InstanceForm} {overrides : Overrides}

theorem paramsToSend_of_local (hlocal : panel.form.deployType = "local") :
    paramsToSend conversions panel
      = some (record (writtenParams conversions (paramsKind panel.runtime panel.form.backend) panel.form
          panel.instOverrides)) := by
  unfold paramsToSend paramsKind InstancesPanel.isDockerRuntime InstancesPanel.isOllamaRuntime localParams
  rw [if_pos hlocal]
  by_cases hdocker : panel.runtime.any (·.deployType = "docker")
  · rw [if_pos hdocker, if_pos hdocker]
    rfl
  · rw [if_neg hdocker, if_neg hdocker]
    by_cases hruntime : panel.runtime.any (·.backend = "ollama")
    · rw [if_pos hruntime, if_pos (Or.inl hruntime)]
      rfl
    · rw [if_neg hruntime]
      by_cases hbackend : panel.form.backend = "ollama"
      · rw [if_pos hbackend, if_pos (Or.inr hbackend)]
        rfl
      · rw [if_neg hbackend, if_neg (not_or_intro hruntime hbackend)]
        rfl

theorem paramsToSend_of_not_local (hlocal : panel.form.deployType ≠ "local") :
    paramsToSend conversions panel = none := if_neg hlocal

theorem submit_eq_ok {sent : InstancePayload} (hsent : submit conversions panel = .ok sent) :
    sent = payload conversions panel := by
  unfold submit at hsent
  split at hsent
  · cases hsent
  · exact (Except.ok.inj hsent).symm

theorem keys_programParams : (programParams conversions form).map Prod.fst
    = ["host", "port", "ctx_size", "gpu_layers", "threads", "extra_args", "probe_paths", "probe_max_attempts",
      "probe_interval_ms", "probe_timeout_ms"] := rfl

theorem keys_buildOllamaParams : (buildOllamaParams form).map Prod.fst = ["ollama_model", "keep_alive"] := rfl

theorem keys_buildDockerInstanceParams : (buildDockerInstanceParams form overrides).map Prod.fst
    = ["container_name", "host_port", "model_container_path", "served_model_name", "gpu",
      "gpu_memory_utilization", "max_model_len", "max_num_seqs", "tensor_parallel_size", "container_port",
      "extra_docker_args", "extra_backend_args"] := rfl

theorem nodup_programParams : ((programParams conversions form).map Prod.fst).Nodup := by
  rw [keys_programParams]
  decide +kernel

theorem nodup_buildOllamaParams : ((buildOllamaParams form).map Prod.fst).Nodup := by
  rw [keys_buildOllamaParams]
  decide +kernel

theorem nodup_buildDockerInstanceParams : ((buildDockerInstanceParams form overrides).map Prod.fst).Nodup := by
  rw [keys_buildDockerInstanceParams]
  decide +kernel

end Written

theorem readable_paramsJson {row : InstanceRow} {fields : List (String × Option JsValue)}
    (hparams : row.paramsJson = .keeping (some (record fields))) :
    row.paramsJson.readable = some (record fields) := by
  rw [hparams, readable_record]

section Texts

theorem host_textOr (text : String) :
    orElse (some (str (trim (textOr (some (orElse (some (str (trim text))) (str "127.0.0.1"))) "127.0.0.1"))))
        (str "127.0.0.1")
      = orElse (some (str (trim text))) (str "127.0.0.1") := by
  by_cases hblank : trim text = ""
  · rw [hblank]
    rfl
  · have htruthy : (str (trim text)).truthy := decide_eq_true hblank
    have hread : textOr (some (str (trim text))) "127.0.0.1" = trim text := rfl
    rw [orElse_of_truthy htruthy, hread, trim_trim, orElse_of_truthy htruthy]

end Texts

section Reopened

variable {conversions : Conversions} {form : InstanceForm} {overrides : Overrides} {row : InstanceRow}
  {rtDefaults : DockerRuntimeDefaults}

/-- What is written for a local program whose parameters have been read. -/
theorem programParams_editForm (conversions : Conversions) (rtDefaults : DockerRuntimeDefaults)
    (field : String → Option JsValue) (hfield : field = get row.paramsJson.readable) :
    programParams conversions (editForm conversions rtDefaults row)
      = [("host", some (orElse (some (str (trim (textOr (field "host") "127.0.0.1")))) (str "127.0.0.1"))),
        ("port", some (num (numberOr (field "port") 8080))),
        ("ctx_size", (some (num (numberOr (field "ctx_size") 4096))).filter truthy),
        ("gpu_layers",
          if atLeast conversions (some (num (numberOr (field "gpu_layers") (-1)))) 0 then
            some (num (numberOr (field "gpu_layers") (-1)))
          else none),
        ("threads", (some (num (numberOr (field "threads") 0))).filter truthy),
        ("extra_args", some (texts (linesToArgs (Text.join (textsOf (field "extra_args")))))),
        ("probe_paths", nonEmptyArgs (Text.join (textsOf (field "probe_paths")))),
        ("probe_max_attempts", unusual (some (num (numberOr (field "probe_max_attempts") 5))) 5),
        ("probe_interval_ms", unusual (some (num (numberOr (field "probe_interval_ms") 5000))) 5000),
        ("probe_timeout_ms", unusual (some (num (numberOr (field "probe_timeout_ms") 400))) 400)] := by
  rw [hfield]
  unfold editForm parseParams
  cases row.paramsJson.readable with
  | none => rfl
  | some params => rfl

/-- The forms of a local program whose parameters come back as they are written. -/
@[mk_iff]
structure ProgramRestored (conversions : Conversions) (form : InstanceForm) : Prop where
  port : IsNumber form.port
  /-- Neither cleared nor 0. -/
  ctxSize : IsNumber (form.ctxSize.filter truthy)
  gpuLayers : atLeast conversions form.gpuLayers 0 → IsNumber form.gpuLayers
  threads : Numeric (form.threads.filter truthy)
  probeMaxAttempts : Numeric form.probeMaxAttempts
  probeIntervalMs : Numeric form.probeIntervalMs
  probeTimeoutMs : Numeric form.probeTimeoutMs

theorem sameFields_layers_iff {value : Option JsValue} (layers : Option JsValue)
    (hlayers : layers = if atLeast conversions value 0 then value else none) :
    SameFields layers
        (if atLeast conversions (some (num (numberOr layers (-1)))) 0 then some (num (numberOr layers (-1)))
        else none)
      ↔ (atLeast conversions value 0 → IsNumber value) := by
  have hfilter (value : Option JsValue) : (if atLeast conversions value 0 then value else none)
      = value.filter fun found => atLeast conversions (some found) 0 := by
    cases value with
    | none => exact ite_self none
    | some found => rfl
  have hall : atLeast conversions (some (num (-1))) 0 = false := rfl
  rw [hfilter, hlayers, hfilter, sameFields_reread_of_omitted hall, ← hfilter]
  by_cases hleast : atLeast conversions value 0
  · rw [if_pos hleast, numeric_iff]
    constructor
    · rintro (hnone | hnumber) -
      · rw [hnone] at hleast
        cases hleast
      · exact hnumber
    · intro hnumber
      exact Or.inr (hnumber hleast)
  · rw [if_neg hleast]
    exact iff_of_true (numeric_iff.mpr (Or.inl rfl)) (fun hpos => absurd hpos hleast)

theorem sameFields_program_iff
    (hreadable : row.paramsJson.readable = some (record (programParams conversions form))) :
    SameFields (some (record (programParams conversions form)))
        (some (record (programParams conversions (editForm conversions rtDefaults row))))
      ↔ ProgramRestored conversions form := by
  have hget (key : String) : get row.paramsJson.readable key
      = ((programParams conversions form).lookup key).join := by
    rw [hreadable]
    exact get_record nodup_programParams key
  have hkeys : (programParams conversions form).map Prod.fst
      = (programParams conversions (editForm conversions rtDefaults row)).map Prod.fst :=
    keys_programParams.trans keys_programParams.symm
  have hreread := programParams_editForm conversions rtDefaults
    (get row.paramsJson.readable) rfl
  rw [sameFields_record_iff hkeys nodup_programParams, hreread]
  simp only [hget, programParams, List.lookup, List.lookup_cons_self, String.reduceBEq, Option.join_some,
    textsOf_texts, linesToArgs_join_linesToArgs, nonEmptyArgs_join, List.forall₂_cons, SameFields.refl,
    List.forall₂_nil_left_iff, true_and, and_true]
  have hctx : (num 4096).truthy = true := by decide
  have hthreads : (num 0).truthy = false := by decide
  rw [host_textOr, sameFields_numberOr_iff, sameFields_reread_of_written hctx, sameFields_layers_iff _ rfl,
    sameFields_reread_of_omitted hthreads, sameFields_unusual_iff, sameFields_unusual_iff,
    sameFields_unusual_iff, programRestored_iff]
  exact and_iff_right (SameFields.refl _)

/-- What is written for Ollama from the parameters that have been read. -/
theorem buildOllamaParams_editForm (field : String → Option JsValue)
    (hfield : field = get row.paramsJson.readable) :
    buildOllamaParams (editForm conversions rtDefaults row)
      = [("ollama_model", some (str (trim (textOr (field "ollama_model") "")))),
        ("keep_alive", nonBlank (textOr (field "keep_alive") ""))] := by
  rw [hfield]
  unfold editForm parseParams
  cases row.paramsJson.readable with
  | none => rfl
  | some params => rfl

theorem buildOllamaParams_reread (hreadable : row.paramsJson.readable = some (record (buildOllamaParams form))) :
    buildOllamaParams (editForm conversions rtDefaults row) = buildOllamaParams form := by
  have hget (key : String) : get row.paramsJson.readable key = ((buildOllamaParams form).lookup key).join := by
    rw [hreadable]
    exact get_record nodup_buildOllamaParams key
  have hmodel : textOr (some (str (trim form.ollamaModel))) "" = trim form.ollamaModel := rfl
  rw [buildOllamaParams_editForm _ rfl]
  simp only [hget, buildOllamaParams, List.lookup, List.lookup_cons_self, String.reduceBEq, Option.join_some,
    hmodel, trim_trim, nonBlank_textOr]

/-- What is written for a container from the parameters that have been read. -/
theorem buildDockerInstanceParams_editForm (conversions : Conversions) (rtDefaults : DockerRuntimeDefaults)
    (field : String → Option JsValue)
    (hfield : field = get row.paramsJson.readable) :
    buildDockerInstanceParams (editForm conversions rtDefaults row) (detectOverrides row.paramsJson)
      = [("container_name", nonBlank (textOr (field "container_name") "")),
        ("host_port", (some (num (numberOr (field "host_port") 18000))).filter truthy),
        ("model_container_path", nonBlank (textOr (field "model_container_path") "")),
        ("served_model_name", nonBlank (textOr (field "served_model_name") "")),
        ("gpu", if (field "gpu").isSome then nonBlank (textOr (field "gpu") "all") else none),
        ("gpu_memory_utilization",
          if (field "gpu_memory_utilization").isSome then
            some (num (numberOr (field "gpu_memory_utilization") (1 / 2)))
          else none),
        ("max_model_len",
          if (field "max_model_len").isSome then some (num (numberOr (field "max_model_len") 4096)) else none),
        ("max_num_seqs",
          if (field "max_num_seqs").isSome then some (num (numberOr (field "max_num_seqs") 8)) else none),
        ("tensor_parallel_size",
          if (field "tensor_parallel_size").isSome then some (num (numberOr (field "tensor_parallel_size") 1))
          else none),
        ("container_port",
          if ((field "container_port").bind asNumber).isSome then some (num rtDefaults.containerPort) else none),
        ("extra_docker_args",
          if !(((field "extra_docker_args").bind asArray).getD []).isEmpty then
            nonEmptyArgs (Text.join (textsOf (field "extra_docker_args")))
          else none),
        ("extra_backend_args",
          if !(((field "extra_backend_args").bind asArray).getD []).isEmpty then
            nonEmptyArgs (Text.join (textsOf (field "extra_backend_args")))
          else none)] := by
  have hset {α β : Type} (set : Bool) (f : α → Option β) (own common : α) :
      (if set then f (if set then own else common) else none) = if set then f own else none := by
    cases set with
    | false => rfl
    | true => rfl
  rw [hfield]
  unfold editForm parseParams buildDockerInstanceParams detectOverrides
  simp only [hset]
  cases row.paramsJson.readable with
  | none => rfl
  | some params => rfl

/-- The forms of an instance in a container whose parameters come back as they are written, where `rtDefaults`
are those of the runtime environment at that time. -/
@[mk_iff]
structure DockerRestored (form : InstanceForm) (overrides : Overrides) (rtDefaults : DockerRuntimeDefaults) :
    Prop where
  /-- Neither cleared nor 0. -/
  hostPort : IsNumber (form.hostPort.filter truthy)
  gpuMemoryUtilization : overrides .gpuMemoryUtilization → Numeric form.gpuMemoryUtilization
  maxModelLen : overrides .maxModelLen → Numeric form.maxModelLen
  maxNumSeqs : overrides .maxNumSeqs → Numeric form.maxNumSeqs
  tensorParallelSize : overrides .tensorParallelSize → Numeric form.tensorParallelSize
  /-- A port that the instance sets for itself is that of the runtime environment. -/
  containerPort : overrides .containerPort → ∀ port ∈ form.containerPort, port = num rtDefaults.containerPort

section Overridden

variable {set : Bool} {value : Option JsValue} {text : String}

theorem gpu_reread {written : Option JsValue} (hwritten : written = if set then nonBlank text else none) :
    (if written.isSome then nonBlank (textOr written "all") else none) = written := by
  rw [hwritten]
  cases set with
  | false => rfl
  | true =>
      unfold nonBlank
      by_cases hblank : trim text = ""
      · rw [if_pos hblank]
        rfl
      · have hread : textOr (some (str (trim text))) "all" = trim text := rfl
        rw [if_neg hblank, if_pos rfl, if_pos Option.isSome_some, hread, trim_trim, if_neg hblank]

theorem args_reread {written : Option JsValue} (hwritten : written = if set then nonEmptyArgs text else none) :
    (if !((written.bind asArray).getD []).isEmpty then nonEmptyArgs (Text.join (textsOf written)) else none)
      = written := by
  rw [hwritten]
  cases set with
  | false => rfl
  | true =>
      rw [if_pos rfl, nonEmptyArgs_join]
      unfold nonEmptyArgs
      by_cases hnil : linesToArgs text = []
      · rw [if_pos hnil]
        rfl
      · have hwhole : ((some (texts (linesToArgs text))).bind asArray).getD []
            = (linesToArgs text).map str := rfl
        have hsome : (!((linesToArgs text).map str).isEmpty) = true := by
          rw [List.isEmpty_map, Bool.not_eq_true', List.isEmpty_eq_false_iff]
          exact hnil
        rw [if_neg hnil, hwhole, if_pos hsome]

theorem sameFields_overridden_iff {written : Option JsValue} {fallback : ℚ}
    (hwritten : written = if set then value else none) :
    SameFields written (if written.isSome then some (num (numberOr written fallback)) else none)
      ↔ (set → Numeric value) := by
  rw [sameFields_reread_of_defined, hwritten]
  cases set with
  | false => exact iff_of_true (numeric_iff.mpr (Or.inl rfl)) (fun hset => absurd hset Bool.false_ne_true)
  | true => exact ⟨fun hnumeric _ => hnumeric, fun hnumeric => hnumeric rfl⟩

theorem sameFields_containerPort_iff {written : Option JsValue} {port : ℚ}
    (hwritten : written = if set then value else none) :
    SameFields written (if (written.bind asNumber).isSome then some (num port) else none)
      ↔ (set → ∀ found ∈ value, found = num port) := by
  have hvalue : (set → ∀ found ∈ value, found = num port) ↔ ∀ found ∈ written, found = num port := by
    rw [hwritten]
    cases set with
    | false =>
        exact iff_of_true (fun hset => absurd hset Bool.false_ne_true)
          (fun found hfound => absurd hfound (Option.not_mem_none found))
    | true => exact ⟨fun hall => hall rfl, fun hall _ => hall⟩
  rw [hvalue]
  cases written with
  | none => exact iff_of_true (SameFields.refl _) (fun found hfound => absurd hfound (Option.not_mem_none found))
  | some found =>
      have hfound : (∀ other ∈ some found, other = num port) ↔ found = num port := by
        constructor
        · intro hall
          exact hall found rfl
        · intro heq other hother
          rw [← Option.some.inj hother, heq]
      rw [hfound]
      by_cases hnumber : ((some found).bind asNumber).isSome
      · rw [if_pos hnumber, sameFields_num_iff, Option.some_inj]
      · rw [if_neg hnumber, sameFields_none_iff]
        refine iff_of_false (Option.some_ne_none found) ?_
        intro hport
        rw [hport] at hnumber
        exact hnumber rfl

end Overridden

theorem sameFields_docker_iff
    (hreadable : row.paramsJson.readable = some (record (buildDockerInstanceParams form overrides))) :
    SameFields (some (record (buildDockerInstanceParams form overrides)))
        (some (record (buildDockerInstanceParams (editForm conversions rtDefaults row)
          (detectOverrides row.paramsJson))))
      ↔ DockerRestored form overrides rtDefaults := by
  have hget (key : String) : get row.paramsJson.readable key
      = ((buildDockerInstanceParams form overrides).lookup key).join := by
    rw [hreadable]
    exact get_record nodup_buildDockerInstanceParams key
  have hkeys : (buildDockerInstanceParams form overrides).map Prod.fst
      = (buildDockerInstanceParams (editForm conversions rtDefaults row)
          (detectOverrides row.paramsJson)).map Prod.fst :=
    keys_buildDockerInstanceParams.trans keys_buildDockerInstanceParams.symm
  have hreread := buildDockerInstanceParams_editForm conversions rtDefaults
    (get row.paramsJson.readable) rfl
  rw [sameFields_record_iff hkeys nodup_buildDockerInstanceParams, hreread]
  simp only [hget, buildDockerInstanceParams, List.lookup, List.lookup_cons_self, String.reduceBEq,
    Option.join_some, nonBlank_textOr, List.forall₂_cons, SameFields.refl, List.forall₂_nil_left_iff, true_and,
    and_true]
  have hport : (num 18000).truthy = true := by decide
  rw [gpu_reread rfl, args_reread rfl, args_reread rfl, sameFields_reread_of_written hport,
    sameFields_overridden_iff rfl, sameFields_overridden_iff rfl, sameFields_overridden_iff rfl,
    sameFields_overridden_iff rfl, sameFields_containerPort_iff rfl, dockerRestored_iff]
  simp only [SameFields.refl, true_and, and_true]

end Reopened

/-- The row of an instance that was saved with this payload, as far as its parameters depend on it. -/
structure SavedWith (sent : InstancePayload) (row : InstanceRow) : Prop where
  deployType : row.deployType = sent.deployType
  paramsJson : row.paramsJson = .keeping sent.paramsJson

/-- The forms whose parameters come back as they are written, by where the instance runs. -/
def ParamsRestored (conversions : Conversions) (kind : ParamsKind) (form : InstanceForm) (overrides : Overrides)
    (rtDefaults : DockerRuntimeDefaults) : Prop :=
  match kind with
  | .docker => DockerRestored form overrides rtDefaults
  | .ollama => True
  | .program => ProgramRestored conversions form

/-- The row that is opened runs where the form that was saved did, and the parameters of the form come back. -/
structure Restored (conversions : Conversions) (panel : InstancesPanel) (row : InstanceRow)
    (runtime : Option RuntimeEntry) : Prop where
  kind : paramsKind panel.runtime panel.form.backend
    = paramsKind runtime (if row.backend = "custom" then "" else row.backend)
  params : ParamsRestored conversions (paramsKind panel.runtime panel.form.backend) panel.form
    panel.instOverrides (runtimeDefaultsOf runtime)

section Kinds

variable {conversions : Conversions} {kind kind' : ParamsKind} {form form' : InstanceForm}
  {overrides overrides' : Overrides}

theorem nodup_writtenParams : ((writtenParams conversions kind form overrides).map Prod.fst).Nodup := by
  cases kind with
  | docker => exact nodup_buildDockerInstanceParams
  | ollama => exact nodup_buildOllamaParams
  | program => exact nodup_programParams

theorem isSome_host : (get (some (record (writtenParams conversions kind form overrides))) "host").isSome
    = decide (kind = .program) := by
  rw [get_record nodup_writtenParams]
  cases kind with
  | docker => rfl
  | ollama => rfl
  | program => rfl

theorem isSome_ollamaModel :
    (get (some (record (writtenParams conversions kind form overrides))) "ollama_model").isSome
      = decide (kind = .ollama) := by
  rw [get_record nodup_writtenParams]
  cases kind with
  | docker => rfl
  | ollama => rfl
  | program => rfl

/-- Parameters with the same fields were written for the same kind of place. -/
theorem kind_eq_of_sameFields
    (hsame : SameFields (some (record (writtenParams conversions kind form overrides)))
      (some (record (writtenParams conversions kind' form' overrides')))) : kind = kind' := by
  have hprogram := (hsame.get "host").isSome_eq
  have hollama := (hsame.get "ollama_model").isSome_eq
  rw [isSome_host, isSome_host, decide_eq_decide] at hprogram
  rw [isSome_ollamaModel, isSome_ollamaModel, decide_eq_decide] at hollama
  cases kind with
  | program => exact (hprogram.mp rfl).symm
  | ollama => exact (hollama.mp rfl).symm
  | docker =>
      cases kind' with
      | docker => rfl
      | ollama => exact hollama.mpr rfl
      | program => exact hprogram.mpr rfl

end Kinds

section Reopening

variable {conversions : Conversions} {panel reopened : InstancesPanel} {row : InstanceRow}
  {sent resent : InstancePayload}

theorem sameFields_writtenParams_iff {kind : ParamsKind} {form : InstanceForm} {overrides : Overrides}
    {rtDefaults : DockerRuntimeDefaults}
    (hreadable : row.paramsJson.readable = some (record (writtenParams conversions kind form overrides))) :
    SameFields (some (record (writtenParams conversions kind form overrides)))
        (some (record (writtenParams conversions kind (editForm conversions rtDefaults row)
          (detectOverrides row.paramsJson))))
      ↔ ParamsRestored conversions kind form overrides rtDefaults := by
  cases kind with
  | docker => exact sameFields_docker_iff hreadable
  | program => exact sameFields_program_iff hreadable
  | ollama =>
      have hreread : writtenParams conversions .ollama (editForm conversions rtDefaults row)
          (detectOverrides row.paramsJson) = writtenParams conversions .ollama form overrides :=
        buildOllamaParams_reread hreadable
      rw [hreread]
      exact iff_of_true (SameFields.refl _) trivial

/-- Saving an instance that has just been opened sends the parameters that were saved, with the same fields and
values, exactly if the instance still runs in the same kind of place and reading gives back each number that
was written. -/
theorem resent_params_iff (hsent : submit conversions panel = .ok sent) (hsaved : SavedWith sent row)
    (hresent : submit conversions (openEdit conversions reopened row) = .ok resent) :
    SameFields sent.paramsJson resent.paramsJson
      ↔ (panel.form.deployType = "local" →
          Restored conversions panel row
            (findRuntime reopened.runtimeEnvironments (row.runtimeEnvironmentId.getD ""))) := by
  obtain rfl := submit_eq_ok hsent
  obtain rfl := submit_eq_ok hresent
  have hdeploy : (openEdit conversions reopened row).form.deployType = panel.form.deployType :=
    hsaved.deployType
  have hparams : row.paramsJson = .keeping (paramsToSend conversions panel) := hsaved.paramsJson
  show SameFields (paramsToSend conversions panel) (paramsToSend conversions (openEdit conversions reopened row))
    ↔ _
  by_cases hlocal : panel.form.deployType = "local"
  · rw [paramsToSend_of_local hlocal] at hparams
    rw [paramsToSend_of_local hlocal, paramsToSend_of_local (hdeploy.trans hlocal), forall_prop_of_true hlocal]
    have hreadable := readable_paramsJson hparams
    constructor
    · intro hsame
      have hkind := kind_eq_of_sameFields hsame
      rw [← hkind] at hsame
      exact ⟨hkind, (sameFields_writtenParams_iff hreadable).mp hsame⟩
    · rintro ⟨hkind, hrestored⟩
      have hthere : paramsKind panel.runtime panel.form.backend
          = paramsKind (openEdit conversions reopened row).runtime
              (openEdit conversions reopened row).form.backend := hkind
      rw [← hthere]
      exact (sameFields_writtenParams_iff hreadable).mpr hrestored
  · rw [paramsToSend_of_not_local hlocal, paramsToSend_of_not_local (hdeploy ▸ hlocal)]
    exact iff_of_true (SameFields.refl _) (fun heq => absurd heq hlocal)

/-- The panel as it saves a local program with this context size. -/
def programPanel (ctxSize : Option JsValue) : InstancesPanel :=
  { form := { emptyForm with
      deployType := "local", name := "qwen", nodeId := "node", runtimeEnvironmentId := "llama",
      modelFileId := "file", ctxSize := ctxSize }
    runtimeEnvironments :=
      [{ id := "llama", backend := "llama_cpp", deployType := "binary", paramsJson := .absent }] }

/-- The row of the program that was saved. -/
def programRow (conversions : Conversions) (ctxSize : Option JsValue) : InstanceRow :=
  { id := "instance", modelId := none, modelFileId := some "file", nodeId := some "node",
    runtimeEnvironmentId := some "llama", name := "qwen", deployType := "local", backend := "llama_cpp",
    modelName := none, runtimeVersion := none, baseUrl := none, endpointUrl := none, healthUrl := none,
    description := none, paramsJson := .keeping (paramsToSend conversions (programPanel ctxSize)),
    status := "stopped" }

end Reopening

theorem submit_programPanel (conversions : Conversions) (ctxSize : Option JsValue) :
    submit conversions (programPanel ctxSize) = .ok (payload conversions (programPanel ctxSize)) := rfl

theorem submit_reopened_programPanel (conversions : Conversions) (ctxSize : Option JsValue) :
    submit conversions (openEdit conversions (programPanel ctxSize) (programRow conversions ctxSize))
      = .ok (payload conversions
          (openEdit conversions (programPanel ctxSize) (programRow conversions ctxSize))) := rfl

theorem resent_params_iff_example :
    SameFields
      (paramsToSend ⟨fun _ => none, fun _ => ""⟩ (programPanel (some (num 4096))))
      (paramsToSend ⟨fun _ => none, fun _ => ""⟩
        (openEdit ⟨fun _ => none, fun _ => ""⟩ (programPanel (some (num 4096)))
          (programRow ⟨fun _ => none, fun _ => ""⟩ (some (num 4096))))) := by
  refine (resent_params_iff (submit_programPanel _ _) ⟨rfl, rfl⟩ (submit_reopened_programPanel _ _)).mpr ?_
  intro _
  refine ⟨by decide, ?_⟩
  exact
    { port := by decide
      ctxSize := by decide
      gpuLayers := fun _ => by decide
      threads := by decide
      probeMaxAttempts := by decide
      probeIntervalMs := by decide
      probeTimeoutMs := by decide }

/-- A context size of 0 is not written, and comes back as 4096. -/
theorem zero_context_comes_back :
    ¬ ∀ (conversions : Conversions) (panel reopened : InstancesPanel) (row : InstanceRow)
        (sent resent : InstancePayload), submit conversions panel = .ok sent → SavedWith sent row →
        submit conversions (openEdit conversions reopened row) = .ok resent →
        SameFields sent.paramsJson resent.paramsJson := by
  intro hall
  let conversions : Conversions := ⟨fun _ => none, fun _ => ""⟩
  have hsame := hall conversions (programPanel (some (num 0))) (programPanel (some (num 0)))
    (programRow conversions (some (num 0))) _ _ (submit_programPanel _ _) ⟨rfl, rfl⟩
    (submit_reopened_programPanel _ _)
  have hreadable : (programRow conversions (some (num 0))).paramsJson.readable
      = some (record (programParams conversions (programPanel (some (num 0))).form)) := rfl
  have hrestored := (sameFields_program_iff hreadable).mp hsame
  exact absurd hrestored.ctxSize (by decide)

end LightAI.Web
