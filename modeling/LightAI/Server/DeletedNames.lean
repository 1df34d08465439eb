import LightAI.Server.ModelNames

/-!
# The name of a deleted model in the trash

A deleted model is stored under its name, a marker and a part of its id, and later creations may append the
two again. The trash shows what stands before the first marker. Here each run keeps the names that the models
had when they were deleted, to compare them with what is shown.
-/

namespace LightAI.Server

/-! ### What the trash shows -/

/-- A row of the two queries on the trash. -/
def trashView (db : Db) (item : ModelFileTrash) : ModelFileTrashView :=
  { item with
    modelName := (item.modelId.bind db.models.find?).map trashModelName
    nodeName := (item.nodeId.bind db.nodes.find?).map (·.name) }

def listModelFileTrash : Handler (List ModelFileTrashView) :=
  query fun db =>
    (db.modelFileTrash.rows.mergeSort fun first second => second.createdAt ≤ first.createdAt).map (trashView db)

/-- A view that is read from the trash, in the list or by itself. -/
def ShownInTrash (db : Db) (view : ModelFileTrashView) : Prop :=
  (∃ views, (serve listModelFileTrash db).1 = .ok views ∧ view ∈ views) ∨
    ∃ id, (serve (modelFileTrashItem id) db).1 = .ok view

theorem exists_item_of_shown {db : Db} {view : ModelFileTrashView} (h : ShownInTrash db view) :
    ∃ item, view = trashView db item := by
  rcases h with ⟨views, hserve, hmem⟩ | ⟨id, hserve⟩
  · have hviews : (db.modelFileTrash.rows.mergeSort fun first second =>
        second.createdAt ≤ first.createdAt).map (trashView db) = views := Except.ok.inj hserve
    rw [← hviews] at hmem
    obtain ⟨item, -, hview⟩ := List.mem_map.mp hmem
    exact ⟨item, hview.symm⟩
  · unfold modelFileTrashItem at hserve
    rw [serve_bind_ok (serve_query _ db)] at hserve
    cases hitem : db.modelFileTrash.find? id with
    | none =>
        rw [hitem] at hserve
        cases hserve
    | some item =>
        rw [hitem] at hserve
        exact ⟨item, (Except.ok.inj hserve).symm⟩

theorem modelName_of_shown {db : Db} {view : ModelFileTrashView} {id : String} {model : Model}
    (h : ShownInTrash db view) (hid : view.modelId = some id) (hmodel : db.models.find? id = some model) :
    view.modelName = some (trashModelName model) := by
  obtain ⟨item, hview⟩ := exists_item_of_shown h
  have hitem : item.modelId = some id := by
    rw [hview] at hid
    exact hid
  rw [hview]
  simp only [trashView, hitem, Option.bind_some, hmodel, Option.map_some]

/-! ### Names that survive -/

/-- The marker does not occur in the name, and the name does not end with so much of it that the marker
behind it completes another. -/
structure Unmarked (name : String) : Prop where
  inside : ¬ "__deleted__".toList <:+: name.toList
  short : ¬ "__deleted".toList <:+ name.toList
  long : ¬ "__deleted_".toList <:+ name.toList

theorem unmarked_iff (name : String) :
    ¬ "__deleted__".toList <:+: name.toList ++ "__deleted__".toList.dropLast ↔ Unmarked name := by
  have hoverlaps : ∀ k < "__deleted__".toList.length, 0 < k →
      "__deleted__".toList.drop k <+: "__deleted__".toList → k = 9 ∨ k = 10 := by
    decide
  rw [FirstMarker.infix_append_dropLast_iff (by decide)]
  constructor
  · intro hnone
    constructor
    · intro hinside
      exact hnone (.inl hinside)
    · intro hshort
      exact hnone (.inr ⟨9, by decide, by decide, by decide, hshort⟩)
    · intro hlong
      exact hnone (.inr ⟨10, by decide, by decide, by decide, hlong⟩)
  · rintro ⟨hinside, hshort, hlong⟩ (hvalue | ⟨k, hlt, hpos, hdrop, htake⟩)
    · exact hinside hvalue
    · rcases hoverlaps k hlt hpos hdrop with rfl | rfl
      · exact hshort htake
      · exact hlong htake

/-- A deleted model that is stored under its name, the marker and more. -/
def StoredAs (model : Model) (name : String) : Prop :=
  model.deletedAt ≠ none ∧ ∃ rest, model.name = name ++ "__deleted__" ++ rest

theorem StoredAs.releaseName {model : Model} {name : String} (h : StoredAs model name) :
    StoredAs model.releaseName name := by
  obtain ⟨hdeleted, rest, hname⟩ := h
  refine ⟨hdeleted, rest ++ "__deleted__" ++ String.ofList (model.id.toList.take 8), ?_⟩
  simp only [Model.releaseName, hname, String.append_assoc]

theorem trashModelName_eq_iff {model : Model} {name : String} (h : StoredAs model name) :
    trashModelName model = name ↔ Unmarked name := by
  obtain ⟨hdeleted, rest, hname⟩ := h
  obtain ⟨time, htime⟩ := Option.ne_none_iff_exists'.mp hdeleted
  have htext : model.name.toList = name.toList ++ "__deleted__".toList ++ rest.toList := by
    rw [hname, String.toList_append, String.toList_append]
  have hbegins : FirstMarker.before "__deleted__".toList (name.toList ++ "__deleted__".toList ++ rest.toList)
        = some name.toList ↔
      ¬ "__deleted__".toList <:+: name.toList ++ "__deleted__".toList.dropLast :=
    FirstMarker.before_append_iff (by decide)
  rw [← unmarked_iff, ← hbegins, ← htext]
  unfold trashModelName
  rw [htime]
  cases hbefore : FirstMarker.before "__deleted__".toList model.name.toList with
  | none =>
      refine iff_of_false ?_ ?_
      · intro hsame
        have hlength := congrArg String.length (hname.symm.trans hsame)
        simp only [String.length_append] at hlength
        have hmarker : "__deleted__".length = 11 := rfl
        omega
      · intro hsome
        cases hsome
  | some first =>
      constructor
      · intro hsame
        rw [← hsame, String.toList_ofList]
      · intro hsome
        exact (congrArg String.ofList (Option.some.inj hsome)).trans String.ofList_toList

/-! ### What one step does to the deleted models -/

/-- Every deleted model stays, under its name or a longer one, or has just been deleted. -/
structure NamesStep (models models' : Table String Model Model.id) : Prop where
  stays : ∀ id model, models.find? id = some model → model.deletedAt ≠ none →
    ∃ model', models'.find? id = some model' ∧ model'.deletedAt ≠ none
  comes : ∀ id model', models'.find? id = some model' → model'.deletedAt ≠ none →
    ∃ model, models.find? id = some model ∧
      ((model.deletedAt = none ∧ model'.name = model.releaseName.name) ∨
        (model.deletedAt ≠ none ∧ (model' = model ∨ model' = model.releaseName)))

theorem NamesStep.refl (models : Table String Model Model.id) : NamesStep models models where
  stays _ model hfind hdeleted := ⟨model, hfind, hdeleted⟩
  comes _ model hfind hdeleted := ⟨model, hfind, .inr ⟨hdeleted, .inl rfl⟩⟩

/-- An update of some rows, by what it does to a row. -/
theorem NamesStep.of_updateWhere {models : Table String Model Model.id} {p : Model → Bool}
    {f : Model → Model} {hf : ∀ model, (f model).id = model.id}
    (hstays : ∀ model, p model = true → model.deletedAt ≠ none → (f model).deletedAt ≠ none)
    (hcomes : ∀ model, p model = true → (f model).deletedAt ≠ none →
      (model.deletedAt = none ∧ (f model).name = model.releaseName.name) ∨
        (model.deletedAt ≠ none ∧ f model = model.releaseName)) :
    NamesStep models (models.updateWhere p f hf) where
  stays id model hfind hdeleted := by
    refine ⟨if p model = true then f model else model, ?_, ?_⟩
    · rw [Table.find?_updateWhere, hfind]
      rfl
    · by_cases hp : p model = true
      · rw [if_pos hp]
        exact hstays model hp hdeleted
      · rw [if_neg hp]
        exact hdeleted
  comes id model' hfind hdeleted := by
    rw [Table.find?_updateWhere] at hfind
    obtain ⟨model, hmodel, heq⟩ := Option.map_eq_some_iff.mp hfind
    refine ⟨model, hmodel, ?_⟩
    by_cases hp : p model = true
    · rw [if_pos hp] at heq
      rw [← heq] at hdeleted ⊢
      rcases hcomes model hp hdeleted with hlive | ⟨hbefore, hreleased⟩
      · exact .inl hlive
      · exact .inr ⟨hbefore, .inr hreleased⟩
    · rw [if_neg hp] at heq
      rw [← heq] at hdeleted ⊢
      exact .inr ⟨hdeleted, .inl rfl⟩

theorem namesStep_releaseModelName (models : Table String Model Model.id) (name : String) :
    NamesStep models (releaseModelName models name) := by
  refine .of_updateWhere ?_ ?_
  · intro model _ hdeleted
    exact hdeleted
  · intro model _ hdeleted
    exact .inr ⟨hdeleted, rfl⟩

theorem namesStep_updateModelRow (models : Table String Model Model.id) (id name : String) :
    NamesStep models (updateModelRow models id name) := by
  have hlive : ∀ model : Model, (model.id = id && model.deletedAt.isNone) = true → model.deletedAt = none :=
    fun model hp => Option.isNone_iff_eq_none.mp ((Bool.and_eq_true _ _).mp hp).2
  refine .of_updateWhere ?_ ?_
  · intro model _ hdeleted
    exact hdeleted
  · intro model hp hdeleted
    exact absurd (hlive model hp) hdeleted

theorem namesStep_releaseDeleted (models : Table String Model Model.id) (id : String) (now : Int) :
    NamesStep models (releaseDeleted models id now) := by
  refine .of_updateWhere ?_ ?_
  · intro model _ _
    exact Option.some_ne_none now
  · intro model hp _
    exact .inl ⟨Option.isNone_iff_eq_none.mp ((Bool.and_eq_true _ _).mp hp).2, rfl⟩

/-- A model that is inserted is not deleted. -/
theorem NamesStep.insert {models released models' : Table String Model Model.id} {model : Model}
    (h : NamesStep models released) (hlive : model.deletedAt = none)
    (hinsert : released.insert? model = some models') : NamesStep models models' where
  stays id row hfind hdeleted := by
    obtain ⟨row', hrow', hdeleted'⟩ := h.stays id row hfind hdeleted
    refine ⟨row', ?_, hdeleted'⟩
    have hne : id ≠ model.id := by
      intro hid
      rw [hid, Table.insert?_fresh hinsert] at hrow'
      cases hrow'
    rw [Table.find?_insert? hinsert, if_neg hne]
    exact hrow'
  comes id row hfind hdeleted := by
    rw [Table.find?_insert? hinsert] at hfind
    by_cases hid : id = model.id
    · rw [if_pos hid] at hfind
      rw [← Option.some.inj hfind] at hdeleted
      exact absurd hlive hdeleted
    · rw [if_neg hid] at hfind
      exact h.comes id row hfind hdeleted

theorem ModelsStep.namesStep {models models' : Table String Model Model.id} (h : ModelsStep models models') :
    NamesStep models models' := by
  cases h with
  | same => exact .refl models
  | renamed id name _ => exact namesStep_updateModelRow models id name
  | deleted id now _ => exact namesStep_releaseDeleted models id now
  | created model models' hlive hinserted =>
      unfold insertModel at hinserted
      split at hinserted
      · exact (namesStep_releaseModelName models model.name).insert hlive hinserted
      · cases hinserted

/-! ### The names at deletion -/

/-- A platform with the name that each deleted model had when it was deleted. -/
abbrev NamedPlatform := Platform × (String → Option String)

/-- A step, and the names of the models that it deletes. -/
def namedStep (deps : External) (s : NamedPlatform) (op : PlatformOperation) : NamedPlatform :=
  let next := op.perform deps s.1
  (next, fun id =>
    match s.1.db.models.find? id with
    | some model =>
        if model.deletedAt.isNone && next.db.modelDeleted id then some model.name else s.2 id
    | none => s.2 id)

/-- Exactly the deleted models have a name at deletion, and each is stored under it, the marker and more. -/
structure NamesRecorded (s : NamedPlatform) : Prop where
  stored : ∀ id model, s.1.db.models.find? id = some model → model.deletedAt ≠ none →
    ∃ name, s.2 id = some name ∧ StoredAs model name
  recorded : ∀ id name, s.2 id = some name →
    ∃ model, s.1.db.models.find? id = some model ∧ model.deletedAt ≠ none

theorem namesRecorded_step (deps : External) (s : NamedPlatform) (op : PlatformOperation)
    (hs : NamesRecorded s) (hop : ModelsUpdated deps s.1 op) : NamesRecorded (namedStep deps s op) := by
  have hstep := (modelsStep_perform deps s.1 op hop).namesStep
  constructor
  · intro id model' hfind hdeleted
    have hgone : (op.perform deps s.1).db.modelDeleted id = true := by
      unfold Db.modelDeleted
      have hfind' : (op.perform deps s.1).db.models.find? id = some model' := hfind
      rw [hfind', Option.any_some]
      exact Option.isSome_iff_ne_none.mpr hdeleted
    obtain ⟨model, hmodel, ⟨hlive, hname⟩ | ⟨hbefore, hsame⟩⟩ := hstep.comes id model' hfind hdeleted
    · refine ⟨model.name, ?_, hdeleted, String.ofList (model.id.toList.take 8), hname⟩
      simp only [namedStep, hmodel, hlive, hgone]
      rfl
    · obtain ⟨name, hrecorded, hstored⟩ := hs.stored id model hmodel hbefore
      refine ⟨name, ?_, ?_⟩
      · have hnone : model.deletedAt.isNone = false := Option.isNone_eq_false_iff.mpr
          (Option.isSome_iff_ne_none.mpr hbefore)
        simp only [namedStep, hmodel, hnone, Bool.false_and, Bool.false_eq_true, if_false]
        exact hrecorded
      · rcases hsame with hsame | hsame
        · rw [hsame]
          exact hstored
        · rw [hsame]
          exact hstored.releaseName
  · intro id name hname
    cases hmodel : s.1.db.models.find? id with
    | none =>
        simp only [namedStep, hmodel] at hname
        obtain ⟨model, hfind, -⟩ := hs.recorded id name hname
        rw [hmodel] at hfind
        cases hfind
    | some model =>
        by_cases hdeletes : (model.deletedAt.isNone && (op.perform deps s.1).db.modelDeleted id) = true
        · obtain ⟨model', hfind, hsome⟩ := (Option.any_eq_true _ _).mp ((Bool.and_eq_true _ _).mp hdeletes).2
          exact ⟨model', hfind, Option.isSome_iff_ne_none.mp hsome⟩
        · simp only [namedStep, hmodel] at hname
          rw [if_neg hdeletes] at hname
          obtain ⟨before, hfind, hdeleted⟩ := hs.recorded id name hname
          exact hstep.stays id before hfind hdeleted

/-- The platform and the names at deletion after a run that starts without models. -/
def namedRun (deps : External) (db : Db) (ops : List PlatformOperation) : NamedPlatform :=
  Trace.run (namedStep deps) ({ db := { db with models := .empty } }, fun _ => none) ops

theorem namesRecorded_run {deps : External} {db : Db} {ops : List PlatformOperation}
    (hops : Trace.Along (namedStep deps) (fun s op => ModelsUpdated deps s.1 op)
      ({ db := { db with models := .empty } }, fun _ => none) ops) :
    NamesRecorded (namedRun deps db ops) := by
  refine Trace.run_invariant (namesRecorded_step deps) ?_ hops
  constructor
  · intro id model hfind
    cases hfind
  · intro id name hname
    cases hname

/-- A model is created, its file goes to the trash and the model is deleted. -/
def deletion (name : String) : List PlatformOperation :=
  creation (namedRequest name "/models/chat") chatId "f" "t" ++
    [ .serve (.plain (.deleteModelFile "f" "x")),
      .serve (.deleteModel chatId fun _ => "y") ]

theorem modelsUpdated_deletion (name : String) :
    Trace.Along (namedStep noExternal) (fun s op => ModelsUpdated noExternal s.1 op)
      ({ db := { emptyCatalog with models := .empty } }, fun _ => none) (deletion name) :=
  ⟨trivial, trivial, trivial, trivial, trivial, trivial, trivial⟩

/-- What the trash shows of the deleted model's file. -/
def shownItem (name : String) : Except DomainError ModelFileTrashView :=
  (serve (modelFileTrashItem "x") (namedRun noExternal emptyCatalog (deletion name)).1.db).1

theorem exists_shown {name shown : String}
    (h : (shownItem name).toOption.map (fun view => (view.modelId, view.modelName))
      = some (some chatId, some shown)) :
    ∃ view, ShownInTrash (namedRun noExternal emptyCatalog (deletion name)).1.db view ∧
      view.modelId = some chatId ∧ view.modelName = some shown := by
  obtain ⟨view, hview, hcolumns⟩ := Option.map_eq_some_iff.mp h
  obtain ⟨hid, hname⟩ := Prod.mk.inj hcolumns
  refine ⟨view, .inr ⟨"x", ?_⟩, hid, hname⟩
  change shownItem name = .ok view
  cases hshown : shownItem name with
  | error e =>
      rw [hshown] at hview
      cases hview
  | ok view' =>
      rw [hshown] at hview
      exact congrArg Except.ok (Option.some.inj hview)

end LightAI.Server
