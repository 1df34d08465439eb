import LightAI.Base.UniqueColumn
import LightAI.Base.Upsert
import LightAI.Server.DeletedModels

/-!
# Names of models

No two models have one name, the deleted ones included. A deleted model gives its name up by taking a longer
one, and a creation makes deleted models do so once more. Here are the requests on models with their answers,
and when a name stands in the way of one.
-/

namespace LightAI.Server

/-! ### Requests and their answers -/

/-- What the unique index on the names says. -/
def NamesUnique (models : Table String Model Model.id) : Prop := models.UniqueColumn (·.name)

instance (models : Table String Model Model.id) : Decidable (NamesUnique models) :=
  inferInstanceAs (Decidable (models.rows.map (·.name)).Nodup)

/-- The error of `map_sqlx_conflict` where the index refuses a name. -/
def nameTaken : DomainError := .conflict "model name already exists; use a different name"

/-- The error of a statement that is refused where no conflict is expected. -/
def constraintFailed : DomainError := .internal "constraint failed"

def readModel (id : String) (db : Db) : Except DomainError Model :=
  match db.models.find? id with
  | none => .error (.notFound "model not found")
  | some model => .ok model

/-- The transaction of `create_model`, which either commits or fails. -/
def commitModel (model : Model) (file : ModelFile) (db : Db) : Except DomainError Db :=
  if NamesUnique (releaseModelName db.models model.name) then
    match insertModel (releaseModelName db.models model.name) model with
    | none => .error nameTaken
    | some models =>
        let answer : Bool × Db := (Stmt.insertModelFile file).exec { db with models }
        if answer.1 then .ok answer.2 else .error constraintFailed
  else .error constraintFailed

/-- The file that a model is created with. -/
def firstFile (initialFile : ModelFileRequest) (id fileId : String) (verified : VerifiedModelFile)
    (now : Int) : ModelFile where
  id := fileId
  modelId := id
  nodeId := initialFile.nodeId
  path := initialFile.path
  status := "verified"
  sizeBytes := verified.sizeBytes
  lastVerifiedAt := some verified.verifiedAt
  pathType := verified.pathType
  createdAt := now
  updatedAt := now

/-- `create_model` from its wait on. -/
def finishModelCreation (request : ModelRequest) (id fileId taskId : String) (rounds : Nat) (db : Db) :
    Except DomainError Model × Db :=
  match serve (waitForModelFileVerification taskId rounds) db with
  | (.error e, db') => (.error e, db')
  | (.ok verified, db') =>
      match request.initialFile with
      | none => (.error (.badRequest "initial_file is required"), db')
      | some initialFile =>
          match commitModel { id, name := request.name } (firstFile initialFile id fileId verified db'.clock)
              db' with
          | .error e => (.error e, db')
          | .ok db'' => (readModel id db'', db'')

/-- The instances that a model must not be changed under. -/
def runningInstances (db : Db) (id : String) : List String :=
  (db.modelInstances.rows.filter fun row =>
    row.modelId = some id && row.status ∈ ["running", "starting", "stopping"]).map (·.name)

def modelInUse (instances : List String) : DomainError :=
  let names := ", ".intercalate instances
  .conflict s!"Model in use by running instance {names}. Cannot modify. Stop the instance first."

def updateModel (deps : External) (id : String) (request : ModelRequest) (db : Db) :
    Except DomainError Model × Db :=
  match validateModelRequest deps request with
  | .error e => (.error e, db)
  | .ok _ =>
      if runningInstances db id ≠ [] then (.error (modelInUse (runningInstances db id)), db)
      else if NamesUnique (updateModelRow db.models id request.name) then
        let updated : Db := { db with models := updateModelRow db.models id request.name }
        if (db.models.find? id).any (·.deletedAt.isNone) then (readModel id updated, updated)
        else (.error (.notFound "model not found"), db)
      else (.error nameTaken, db)

def deleteModel (id : String) (trashId : String → String) (db : Db) : Except DomainError Unit × Db :=
  match serve (trashModel id trashId) db with
  | (.error e, db') => (.error e, db')
  | (.ok _, db') =>
      if NamesUnique (releaseDeleted db'.models id db'.clock) then
        if (db'.models.find? id).any (·.deletedAt.isNone) then
          (.ok (), { db' with models := releaseDeleted db'.models id db'.clock })
        else (.error (.notFound "model not found"), db')
      else (.error constraintFailed, db')

/-! ### The same requests in a run -/

theorem createModelRows_eq (model : Model) (file : ModelFile) (db : Db) :
    createModelRows model file db = (commitModel model file db).toOption.getD db := by
  unfold createModelRows commitModel
  by_cases hunique : NamesUnique (releaseModelName db.models model.name)
  · rw [if_pos hunique]
    cases insertModel (releaseModelName db.models model.name) model with
    | none => rfl
    | some models =>
        dsimp only
        split
        · rfl
        · rfl
  · rw [if_neg hunique]
    have hrefused : insertModel (releaseModelName db.models model.name) model = none := by
      unfold insertModel
      refine if_neg ?_
      intro hnodup
      rw [List.map_append] at hnodup
      exact hunique hnodup.of_append_left
    rw [hrefused]
    rfl

theorem finish_createModel (request : ModelRequest) (id fileId taskId : String) (rounds : Nat) (db : Db) :
    (PlatformRequest.createModel request id fileId taskId rounds).finish db
      = (finishModelCreation request id fileId taskId rounds db).2 := by
  simp only [PlatformRequest.finish, finishModelCreation]
  cases serve (waitForModelFileVerification taskId rounds) db with
  | mk outcome db' =>
      cases outcome with
      | error e => rfl
      | ok verified =>
          cases request.initialFile with
          | none => rfl
          | some initialFile =>
              dsimp only
              unfold insertNewModel
              rw [createModelRows_eq]
              change (commitModel _ (firstFile initialFile id fileId verified db'.clock) db').toOption.getD db'
                = _
              cases commitModel { id, name := request.name }
                  (firstFile initialFile id fileId verified db'.clock) db' with
              | error e => rfl
              | ok db'' => rfl

/-- An update that selects no row leaves the table. -/
theorem releaseDeleted_of_none {models : Table String Model Model.id} {id : String} {now : Int}
    (hnone : (models.find? id).any (·.deletedAt.isNone) = false) : releaseDeleted models id now = models := by
  have hrows : (releaseDeleted models id now).rows = models.rows := by
    refine (List.map_congr_left ?_).trans (List.map_id _)
    intro model hmem
    rw [if_neg]
    · rfl
    · intro hselected
      obtain ⟨hid, hlive⟩ := (Bool.and_eq_true _ _).mp hselected
      have hfind := Table.find?_of_mem hmem
      rw [of_decide_eq_true hid] at hfind
      rw [hfind, Option.any_some, hlive] at hnone
      exact Bool.noConfusion hnone
  obtain ⟨rows, hnodup⟩ := models
  exact (Table.mk.injEq _ _ _ _).mpr hrows

theorem deleteModelRow_of_unique {models : Table String Model Model.id} {id : String} {now : Int}
    (hunique : NamesUnique (releaseDeleted models id now)) :
    deleteModelRow models id now = releaseDeleted models id now := if_pos hunique

theorem deleteModelRow_of_not_unique {models : Table String Model Model.id} {id : String} {now : Int}
    (hunique : ¬ NamesUnique (releaseDeleted models id now)) : deleteModelRow models id now = models :=
  if_neg hunique

theorem begin_deleteModel (deps : External) (id : String) (trashId : String → String) (db : Db) :
    (PlatformRequest.deleteModel id trashId).begin deps db = (false, (deleteModel id trashId db).2) := by
  simp only [PlatformRequest.begin, deleteModel]
  cases serve (trashModel id trashId) db with
  | mk outcome db' =>
      cases outcome with
      | error e => rfl
      | ok u =>
          dsimp only
          by_cases hunique : NamesUnique (releaseDeleted db'.models id db'.clock)
          · rw [if_pos hunique, deleteModelRow_of_unique hunique]
            by_cases hlive : (db'.models.find? id).any (·.deletedAt.isNone) = true
            · rw [if_pos hlive]
            · rw [if_neg hlive, releaseDeleted_of_none (Bool.eq_false_iff.mpr hlive)]
          · rw [if_neg hunique, deleteModelRow_of_not_unique hunique]

/-! ### What one step does to the models -/

/-- The models after a step: as before, or after one of the three statements that the index allowed. -/
inductive ModelsStep (models : Table String Model Model.id) : Table String Model Model.id → Prop where
  | same : ModelsStep models models
  | created (model : Model) (models' : Table String Model Model.id) (hlive : model.deletedAt = none)
      (hinserted : insertModel (releaseModelName models model.name) model = some models') :
      ModelsStep models models'
  | renamed (id name : String) (hunique : NamesUnique (updateModelRow models id name)) :
      ModelsStep models (updateModelRow models id name)
  | deleted (id : String) (now : Int) (hunique : NamesUnique (releaseDeleted models id now)) :
      ModelsStep models (releaseDeleted models id now)

theorem modelsStep_commitModel {model : Model} {file : ModelFile} {db db' : Db}
    (hlive : model.deletedAt = none) (h : commitModel model file db = .ok db') :
    ModelsStep db.models db'.models := by
  unfold commitModel at h
  split at h
  · split at h
    · cases h
    · rename_i models hinserted
      dsimp only at h
      split at h
      · have hmodels := models_exec (.insertModelFile file) { db with models }
        rw [← Except.ok.inj h, hmodels]
        exact .created model models hlive hinserted
      · cases h
  · cases h

theorem modelsStep_finishModelCreation (request : ModelRequest) (id fileId taskId : String) (rounds : Nat)
    (db : Db) : ModelsStep db.models (finishModelCreation request id fileId taskId rounds db).2.models := by
  have hwaited := serve_models (waitForModelFileVerification taskId rounds) db
  unfold finishModelCreation
  cases hserve : serve (waitForModelFileVerification taskId rounds) db with
  | mk outcome db' =>
      rw [hserve] at hwaited
      rw [← hwaited]
      cases outcome with
      | error e => exact .same
      | ok verified =>
          cases request.initialFile with
          | none => exact .same
          | some initialFile =>
              dsimp only
              split
              · exact .same
              · rename_i db'' hcommit
                exact modelsStep_commitModel rfl hcommit

theorem modelsStep_updateModel (deps : External) (id : String) (request : ModelRequest) (db : Db) :
    ModelsStep db.models (updateModel deps id request db).2.models := by
  unfold updateModel
  split
  · exact .same
  · split
    · exact .same
    · split
      · rename_i hunique
        dsimp only
        split
        · exact .renamed id request.name hunique
        · exact .same
      · exact .same

theorem modelsStep_deleteModel (id : String) (trashId : String → String) (db : Db) :
    ModelsStep db.models (deleteModel id trashId db).2.models := by
  have htrashed := serve_models (trashModel id trashId) db
  unfold deleteModel
  cases hserve : serve (trashModel id trashId) db with
  | mk outcome db' =>
      rw [hserve] at htrashed
      rw [← htrashed]
      cases outcome with
      | error e => exact .same
      | ok u =>
          dsimp only
          split
          · rename_i hunique
            split
            · exact .deleted id db'.clock hunique
            · exact .same
          · exact .same

/-- Whatever else happens to the models happens by `update_model`. -/
def ModelsUpdated (deps : External) (s : Platform) : PlatformOperation → Prop
  | .act (.models table) => ∃ id request, table = (updateModel deps id request s.db).2.models
  | _ => True

theorem modelsStep_begin (deps : External) (request : PlatformRequest) (db : Db) :
    ModelsStep db.models (request.begin deps db).2.models := by
  cases request with
  | plain request =>
      rw [db_begin_plain, serve_models (request.begin deps) db]
      exact .same
  | createModel request id fileId taskId rounds =>
      have hmodels := serve_models (beginModelCreation deps request taskId) db
      rw [← hmodels]
      simp only [PlatformRequest.begin]
      split <;> rename_i hserve <;> rw [hserve] <;> exact .same
  | deleteModel id trashId =>
      rw [begin_deleteModel]
      exact modelsStep_deleteModel id trashId db

theorem modelsStep_finish (request : PlatformRequest) (db : Db) :
    ModelsStep db.models (request.finish db).models := by
  cases request with
  | plain request =>
      have hmodels : (PlatformRequest.finish (.plain request) db).models = db.models :=
        serve_models request.finish db
      rw [hmodels]
      exact .same
  | createModel request id fileId taskId rounds =>
      rw [finish_createModel]
      exact modelsStep_finishModelCreation request id fileId taskId rounds db
  | deleteModel id trashId => exact .same

theorem modelsStep_perform (deps : External) (s : Platform) (op : PlatformOperation)
    (hop : ModelsUpdated deps s op) : ModelsStep s.db.models (op.perform deps s).db.models := by
  cases op with
  | serve request => exact modelsStep_begin deps request s.db
  | resume index =>
      simp only [PlatformOperation.perform]
      split
      · exact .same
      · rename_i request _
        exact modelsStep_finish request s.db
  | act action =>
      cases action with
      | models table =>
          obtain ⟨id, request, rfl⟩ := hop
          exact modelsStep_updateModel deps id request s.db
      | tick now => exact .same
      | nodes table => exact .same
      | policies table => exact .same

theorem ModelsStep.namesUnique {models models' : Table String Model Model.id} (h : ModelsStep models models')
    (hunique : NamesUnique models) : NamesUnique models' := by
  cases h with
  | same => exact hunique
  | renamed id name hunique' => exact hunique'
  | deleted id now hunique' => exact hunique'
  | created model models' hlive hinserted =>
      unfold insertModel at hinserted
      split at hinserted
      · rename_i hnodup
        unfold NamesUnique Table.UniqueColumn
        rw [Table.insert?_rows hinserted]
        exact hnodup
      · cases hinserted

/-! ### When a name stands in the way -/

inductive CatalogRequest where
  | createModel (request : ModelRequest) (id fileId taskId : String) (rounds : Nat)
  | updateModel (id : String) (request : ModelRequest)
  | deleteModel (id : String) (trashId : String → String)

/-- All that is checked before the names are looked at allows the request. An id that is handed out is a new
one. -/
def CatalogRequest.Acceptable (deps : External) (db : Db) : CatalogRequest → Prop
  | createModel request id _ taskId rounds =>
      validateModelRequest deps request = .ok () ∧ request.initialFile.isSome ∧
        (∃ verified, (serve (waitForModelFileVerification taskId rounds) db).1 = .ok verified) ∧
        db.models.find? id = none
  | updateModel id request =>
      validateModelRequest deps request = .ok () ∧ runningInstances db id = [] ∧
        (db.models.find? id).any (·.deletedAt.isNone) = true
  | deleteModel id trashId => (serve (trashModel id trashId) db).1 = .ok ()

/-- A creation or an update fails with a conflict of names exactly if another model that is not deleted has
the name, and a deletion does not fail. -/
def CatalogRequest.Fair (deps : External) (db : Db) : CatalogRequest → Prop
  | createModel request id fileId taskId rounds =>
      (finishModelCreation request id fileId taskId rounds db).1 = .error nameTaken ↔
        ∃ other ∈ db.models.rows, other.deletedAt = none ∧ other.name = request.name
  | updateModel id request =>
      (Server.updateModel deps id request db).1 = .error nameTaken ↔
        ∃ other ∈ db.models.rows, other.id ≠ id ∧ other.deletedAt = none ∧ other.name = request.name
  | deleteModel id trashId => (Server.deleteModel id trashId db).1 = .ok ()

/-- No deleted model is stored under the name that an update gives, and no other model at all under the name
that a deletion gives. -/
def CatalogRequest.NameFree (db : Db) : CatalogRequest → Prop
  | createModel .. => True
  | updateModel _ request => ∀ other ∈ db.models.rows, other.deletedAt ≠ none → other.name ≠ request.name
  | deleteModel id _ =>
      ∀ model ∈ db.models.rows, model.id = id →
        ∀ other ∈ db.models.rows, other.id ≠ id → other.name ≠ model.releaseName.name

section

variable {deps : External} {db : Db} {models : Table String Model Model.id}

theorem releaseName_ne (model : Model) : model.releaseName.name ≠ model.name := by
  intro hsame
  have hlength := congrArg String.length hsame
  simp only [Model.releaseName, String.length_append] at hlength
  have hmarker : "__deleted__".length = 11 := rfl
  omega

theorem mem_releaseModelName {name : String} {row : Model} :
    row ∈ (releaseModelName models name).rows ↔
      ∃ other ∈ models.rows,
        row = if (other.name = name && other.deletedAt.isSome) = true then other.releaseName else other :=
  Table.mem_updateWhere

/-- After the release only models that are not deleted have the name. -/
theorem exists_named_released_iff {name : String} :
    (∃ row ∈ (releaseModelName models name).rows, row.name = name) ↔
      ∃ other ∈ models.rows, other.deletedAt = none ∧ other.name = name := by
  constructor
  · rintro ⟨row, hmem, hname⟩
    obtain ⟨other, hother, hrow⟩ := mem_releaseModelName.mp hmem
    by_cases hreleased : (other.name = name && other.deletedAt.isSome) = true
    · rw [if_pos hreleased] at hrow
      have hsame : other.name = name := of_decide_eq_true ((Bool.and_eq_true _ _).mp hreleased).1
      rw [hrow, ← hsame] at hname
      exact absurd hname (releaseName_ne other)
    · rw [if_neg hreleased] at hrow
      rw [hrow] at hname
      refine ⟨other, hother, ?_, hname⟩
      simpa [hname] using hreleased
  · rintro ⟨other, hother, hlive, hname⟩
    refine ⟨other, mem_releaseModelName.mpr ⟨other, hother, ?_⟩, hname⟩
    rw [if_neg]
    simp [hlive]

theorem insertModel_eq_none_iff {model : Model} (hfresh : models.find? model.id = none)
    (hunique : NamesUnique models) :
    insertModel models model = none ↔ ∃ other ∈ models.rows, other.name = model.name := by
  have hnames : ((models.rows ++ [model]).map (·.name)).Nodup ↔
      ¬ ∃ other ∈ models.rows, other.name = model.name := by
    rw [List.map_append, List.map_singleton, List.nodup_append]
    constructor
    · rintro ⟨-, -, hne⟩ ⟨other, hother, hname⟩
      exact hne other.name (List.mem_map_of_mem hother) model.name (List.mem_singleton_self _) hname
    · intro hnone
      refine ⟨hunique, List.nodup_singleton _, ?_⟩
      intro name hmem name' hmem' hsame
      obtain ⟨other, hother, rfl⟩ := List.mem_map.mp hmem
      exact hnone ⟨other, hother, hsame.trans (List.mem_singleton.mp hmem')⟩
  have hinsert : models.insert? model ≠ none := by
    intro hnone
    obtain ⟨row, hrow⟩ := Table.insert?_eq_none hnone
    rw [hfresh] at hrow
    cases hrow
  unfold insertModel
  by_cases hnodup : ((models.rows ++ [model]).map (·.name)).Nodup
  · rw [if_pos hnodup]
    exact iff_of_false hinsert (hnames.mp hnodup)
  · rw [if_neg hnodup]
    exact iff_of_true rfl (not_not.mp fun hnone => hnodup (hnames.mpr hnone))

theorem find?_releaseModelName_eq_none {name id : String} (hfresh : models.find? id = none) :
    (releaseModelName models name).find? id = none := by
  have hfind := Table.find?_updateWhere models
    (fun model : Model => model.name = name && model.deletedAt.isSome) Model.releaseName (fun _ => rfl) id
  rw [hfresh] at hfind
  exact hfind

/-- A release that the index refuses is one of a deleted model, and then no other has the name. -/
theorem not_named_of_release_refused {name : String} (hunique : NamesUnique models)
    (hrefused : ¬ NamesUnique (releaseModelName models name)) :
    ¬ ∃ other ∈ models.rows, other.deletedAt = none ∧ other.name = name := by
  rintro ⟨live, hlive, hnone, hname⟩
  apply hrefused
  have hkept : (releaseModelName models name).rows = models.rows := by
    refine (List.map_congr_left ?_).trans (List.map_id _)
    intro other hother
    rw [if_neg]
    · rfl
    · intro hselected
      obtain ⟨hsame, hdeleted⟩ := (Bool.and_eq_true _ _).mp hselected
      have heq : other = live := hunique.eq hother hlive ((of_decide_eq_true hsame).trans hname.symm)
      rw [heq, hnone] at hdeleted
      cases hdeleted
  unfold NamesUnique Table.UniqueColumn
  rw [hkept]
  exact hunique

theorem commitModel_eq_nameTaken_iff {model : Model} {file : ModelFile} (hunique : NamesUnique db.models)
    (hfresh : db.models.find? model.id = none) :
    commitModel model file db = .error nameTaken ↔
      ∃ other ∈ db.models.rows, other.deletedAt = none ∧ other.name = model.name := by
  have hother : constraintFailed ≠ nameTaken := by
    intro hsame
    cases hsame
  unfold commitModel
  by_cases hreleased : NamesUnique (releaseModelName db.models model.name)
  · rw [if_pos hreleased, ← exists_named_released_iff,
      ← insertModel_eq_none_iff (find?_releaseModelName_eq_none hfresh) hreleased]
    cases insertModel (releaseModelName db.models model.name) model with
    | none => simp
    | some models =>
        dsimp only
        split
        · simp
        · simp [hother]
  · rw [if_neg hreleased]
    have hnone := not_named_of_release_refused hunique hreleased
    simp [hother, hnone]

theorem readModel_ne_nameTaken (id : String) (db : Db) : readModel id db ≠ .error nameTaken := by
  unfold readModel
  split
  · intro hsame
    cases hsame
  · intro hsame
    cases hsame

/-- A creation always tells right. -/
theorem fair_createModel {request : ModelRequest} {id fileId taskId : String} {rounds : Nat}
    (hunique : NamesUnique db.models)
    (hacc : (CatalogRequest.createModel request id fileId taskId rounds).Acceptable deps db) :
    (CatalogRequest.createModel request id fileId taskId rounds).Fair deps db := by
  obtain ⟨-, hinitial, ⟨verified, hverified⟩, hfresh⟩ := hacc
  obtain ⟨initialFile, hinitialFile⟩ := Option.isSome_iff_exists.mp hinitial
  have hmodels := serve_models (waitForModelFileVerification taskId rounds) db
  simp only [CatalogRequest.Fair, finishModelCreation]
  cases hserve : serve (waitForModelFileVerification taskId rounds) db with
  | mk outcome db' =>
      rw [hserve] at hmodels hverified
      have houtcome : outcome = .ok verified := hverified
      have hmodels' : db'.models = db.models := hmodels
      have hcommit : commitModel { id, name := request.name }
          (firstFile initialFile id fileId verified db'.clock) db' = .error nameTaken ↔
            ∃ other ∈ db'.models.rows, other.deletedAt = none ∧ other.name = request.name :=
        commitModel_eq_nameTaken_iff (hmodels'.symm ▸ hunique) (hmodels'.symm ▸ hfresh)
      rw [hmodels'] at hcommit
      simp only [houtcome, hinitialFile]
      rw [← hcommit]
      cases commitModel { id, name := request.name } (firstFile initialFile id fileId verified db'.clock)
          db' with
      | error e => simp
      | ok db'' => simp [readModel_ne_nameTaken]

theorem find?_live {id : String} (hlive : (models.find? id).any (·.deletedAt.isNone) = true) :
    ∃ model ∈ models.rows, model.id = id ∧ model.deletedAt = none := by
  obtain ⟨model, hmodel, hnone⟩ := (Option.any_eq_true _ _).mp hlive
  exact ⟨model, Table.find?_mem hmodel, Table.find?_key hmodel, Option.isNone_iff_eq_none.mp hnone⟩

/-- An update of the model that is not deleted selects that model alone. -/
theorem selected_iff {model other : Model} {id : String} (hmodel : model ∈ models.rows) (hid : model.id = id)
    (hlive : model.deletedAt = none) (hother : other ∈ models.rows) :
    (other.id = id && other.deletedAt.isNone) = true ↔ other.id = model.id := by
  constructor
  · intro hselected
    exact (of_decide_eq_true ((Bool.and_eq_true _ _).mp hselected).1).trans hid.symm
  · intro hsame
    have heq : other = model := Table.eq_of_key_eq hother hmodel hsame
    simp [heq, hid, hlive]

theorem namesUnique_updateModelRow_iff {id name : String} (hunique : NamesUnique models)
    (hlive : (models.find? id).any (·.deletedAt.isNone) = true) :
    NamesUnique (updateModelRow models id name) ↔
      ∀ other ∈ models.rows, other.id ≠ id → other.name ≠ name := by
  obtain ⟨model, hmodel, hid, hnone⟩ := find?_live hlive
  have hrow := Table.uniqueColumn_updateWhere_iff
    (fun model => model.id = id && model.deletedAt.isNone) (fun model => { model with name })
    (fun _ => rfl) hunique hmodel fun other hother => selected_iff hmodel hid hnone hother
  rw [hid] at hrow
  exact hrow

theorem namesUnique_releaseDeleted_iff {id : String} {now : Int} (hunique : NamesUnique models)
    (hlive : (models.find? id).any (·.deletedAt.isNone) = true) :
    NamesUnique (releaseDeleted models id now) ↔
      ∀ model ∈ models.rows, model.id = id →
        ∀ other ∈ models.rows, other.id ≠ id → other.name ≠ model.releaseName.name := by
  obtain ⟨model, hmodel, hid, hnone⟩ := find?_live hlive
  have hrow := Table.uniqueColumn_updateWhere_iff
    (fun model => model.id = id && model.deletedAt.isNone)
    (fun model => { model.releaseName with deletedAt := some now })
    (fun _ => rfl) hunique hmodel fun other hother => selected_iff hmodel hid hnone hother
  rw [hid] at hrow
  refine hrow.trans ⟨?_, fun hfree => hfree model hmodel hid⟩
  intro hfree model' hmodel' hid'
  have heq : model' = model := Table.eq_of_key_eq hmodel' hmodel (hid'.trans hid.symm)
  rw [heq]
  exact hfree

theorem updateModel_eq_nameTaken_iff {id : String} {request : ModelRequest} (hunique : NamesUnique db.models)
    (hacc : (CatalogRequest.updateModel id request).Acceptable deps db) :
    (updateModel deps id request db).1 = .error nameTaken ↔
      ∃ other ∈ db.models.rows, other.id ≠ id ∧ other.name = request.name := by
  obtain ⟨hvalid, hidle, hlive⟩ := hacc
  have hindex : NamesUnique (updateModelRow db.models id request.name) ↔
      ∀ other ∈ db.models.rows, other.id ≠ id → other.name ≠ request.name :=
    namesUnique_updateModelRow_iff hunique hlive
  unfold updateModel
  simp only [hvalid, hidle, hlive, ne_eq, not_true_eq_false, if_false, if_true]
  by_cases hfree : NamesUnique (updateModelRow db.models id request.name)
  · rw [if_pos hfree]
    refine iff_of_false (readModel_ne_nameTaken _ _) ?_
    rintro ⟨other, hother, hne, hname⟩
    exact hindex.mp hfree other hother hne hname
  · rw [if_neg hfree]
    refine iff_of_true rfl ?_
    by_contra hnone
    apply hfree
    refine hindex.mpr ?_
    intro other hother hne hname
    exact hnone ⟨other, hother, hne, hname⟩

theorem fair_updateModel_iff {id : String} {request : ModelRequest} (hunique : NamesUnique db.models)
    (hacc : (CatalogRequest.updateModel id request).Acceptable deps db) :
    (CatalogRequest.updateModel id request).Fair deps db ↔
      (CatalogRequest.updateModel id request).NameFree db := by
  simp only [CatalogRequest.Fair, CatalogRequest.NameFree, updateModel_eq_nameTaken_iff hunique hacc]
  obtain ⟨model, hmodel, hid, hlive⟩ := find?_live hacc.2.2
  constructor
  · intro hfair other hother hdeleted hname
    have hne : other.id ≠ id := by
      intro hsame
      have heq : other = model := Table.eq_of_key_eq hother hmodel (hsame.trans hid.symm)
      exact hdeleted (heq ▸ hlive)
    obtain ⟨active, hactive, -, hnone, hname'⟩ := hfair.mp ⟨other, hother, hne, hname⟩
    have heq : other = active := hunique.eq hother hactive (hname.trans hname'.symm)
    exact hdeleted (heq ▸ hnone)
  · intro hfree
    constructor
    · rintro ⟨other, hother, hne, hname⟩
      refine ⟨other, hother, hne, ?_, hname⟩
      by_contra hdeleted
      exact hfree other hother hdeleted hname
    · rintro ⟨other, hother, hne, -, hname⟩
      exact ⟨other, hother, hne, hname⟩

theorem fair_deleteModel_iff {id : String} {trashId : String → String} (hunique : NamesUnique db.models)
    (hacc : (CatalogRequest.deleteModel id trashId).Acceptable deps db) :
    (CatalogRequest.deleteModel id trashId).Fair deps db ↔
      (CatalogRequest.deleteModel id trashId).NameFree db := by
  have hlive : (db.models.find? id).any (·.deletedAt.isNone) = true := by
    by_contra hmissing
    obtain ⟨e, hfails⟩ := serve_trashModel_refused (.inl (Bool.eq_false_iff.mpr hmissing)) trashId
    simp only [CatalogRequest.Acceptable, hfails] at hacc
    cases hacc
  have hmodels := serve_models (trashModel id trashId) db
  simp only [CatalogRequest.Acceptable] at hacc
  simp only [CatalogRequest.Fair, CatalogRequest.NameFree, deleteModel]
  cases hserve : serve (trashModel id trashId) db with
  | mk outcome db' =>
      rw [hserve] at hmodels hacc
      have houtcome : outcome = .ok () := hacc
      have hmodels' : db'.models = db.models := hmodels
      have hindex : NamesUnique (releaseDeleted db.models id db'.clock) ↔
          ∀ model ∈ db.models.rows, model.id = id →
            ∀ other ∈ db.models.rows, other.id ≠ id → other.name ≠ model.releaseName.name :=
        namesUnique_releaseDeleted_iff hunique hlive
      simp only [houtcome, hmodels', hlive, if_true, ← hindex]
      by_cases hfree : NamesUnique (releaseDeleted db.models id db'.clock)
      · rw [if_pos hfree]
        exact iff_of_true rfl hfree
      · rw [if_neg hfree]
        refine iff_of_false ?_ hfree
        intro hsame
        cases hsame

end

/-- The database after a run that starts without models. -/
def reached (deps : External) (db : Db) (ops : List PlatformOperation) : Db :=
  (Trace.run (fun s op => PlatformOperation.perform deps s op) { db := { db with models := .empty } } ops).db

theorem namesUnique_reached {deps : External} {db : Db} {ops : List PlatformOperation}
    (hops : Trace.Along (fun s op => PlatformOperation.perform deps s op) (ModelsUpdated deps)
      { db := { db with models := .empty } } ops) :
    NamesUnique (reached deps db ops).models := by
  have hstep : ∀ (s : Platform) op, NamesUnique s.db.models → ModelsUpdated deps s op →
      NamesUnique (op.perform deps s).db.models :=
    fun s op hunique hop => (modelsStep_perform deps s op hop).namesUnique hunique
  exact Trace.run_invariant hstep List.nodup_nil hops

/-- In every state that a run reaches, an acceptable request is answered by the names of the models that are
not deleted exactly if no deleted model, and for a deletion no model at all, is stored under the name it
gives. -/
theorem name_conflicts_iff (deps : External) (db : Db) (ops : List PlatformOperation)
    (hops : Trace.Along (fun s op => PlatformOperation.perform deps s op) (ModelsUpdated deps)
      { db := { db with models := .empty } } ops)
    (request : CatalogRequest) (hacc : request.Acceptable deps (reached deps db ops)) :
    request.Fair deps (reached deps db ops) ↔ request.NameFree (reached deps db ops) := by
  have hunique := namesUnique_reached hops
  cases request with
  | createModel request id fileId taskId rounds =>
      exact iff_of_true (fair_createModel hunique hacc) trivial
  | updateModel id request => exact fair_updateModel_iff hunique hacc
  | deleteModel id trashId => exact fair_deleteModel_iff hunique hacc

/-! ### A model under the name that a deletion gives -/

/-- One node that is online. -/
def emptyCatalog : Db := { clock := 1000, nodes := oneNode }

def chatId : String := "01234567-89ab-4cde-8f01-23456789abcd"

def namedRequest (name path : String) : ModelRequest where
  name := name
  modelType := "llm"
  initialFile := some { nodeId := "n", path }

/-- The requests of a creation whose file the agent verifies. -/
def creation (request : ModelRequest) (id fileId taskId : String) : List PlatformOperation :=
  [ .serve (.createModel request id fileId taskId 0),
    .serve (.plain (.pollAgentTask "n" none [])),
    .serve (.plain (.recordAgentTaskResult taskId
      { nodeId := "n", status := "succeeded", result := .obj [] })),
    .resume 0 ]

def chatCreation : List PlatformOperation := creation (namedRequest "chat" "/models/chat") chatId "f" "t"

theorem modelsUpdated_creation (deps : External) (s : Platform) (request : ModelRequest)
    (id fileId taskId : String) :
    Trace.Along (fun s op => PlatformOperation.perform deps s op) (ModelsUpdated deps) s
      (creation request id fileId taskId) := ⟨trivial, trivial, trivial, trivial, trivial⟩

/-- A model gets another name that nobody has. -/
theorem name_conflicts_iff_example :
    (CatalogRequest.updateModel chatId (namedRequest "talk" "/models/chat")).Fair noExternal
      (reached noExternal emptyCatalog chatCreation) := by
  have hlive : ((reached noExternal emptyCatalog chatCreation).models.find? chatId).any
      (·.deletedAt.isNone) = true := by
    decide +kernel
  have hnames : (reached noExternal emptyCatalog chatCreation).models.rows.map (·.name) = ["chat"] := by
    decide +kernel
  have hidle : runningInstances (reached noExternal emptyCatalog chatCreation) chatId = [] := by
    decide +kernel
  have hacc : (CatalogRequest.updateModel chatId (namedRequest "talk" "/models/chat")).Acceptable noExternal
      (reached noExternal emptyCatalog chatCreation) := ⟨rfl, hidle, hlive⟩
  refine (name_conflicts_iff noExternal emptyCatalog chatCreation (modelsUpdated_creation _ _ _ _ _ _) _
    hacc).mpr ?_
  intro other hother _ hname
  have hmem := List.mem_map_of_mem (f := Model.name) hother
  rw [hnames, hname] at hmem
  exact absurd hmem (by decide)

theorem serve_trashModel_of_no_files {db : Db} {id : String} (trashId : String → String)
    (hrows : db.modelInstances.rows = []) (hlive : (db.models.find? id).any (·.deletedAt.isNone) = true)
    (hfiles : db.modelFiles.rows.filter (fun file => file.modelId = id && file.deletedAt.isNone) = []) :
    serve (trashModel id trashId) db = (.ok (), db) := by
  unfold trashModel
  rw [serve_bind_ok (serve_query _ db), hrows]
  refine (serve_bind_ok (serve_rejectIf_false _ db) _).trans ?_
  rw [serve_bind_ok (serve_query _ db), hlive]
  refine (serve_bind_ok (serve_rejectIf_false _ db) _).trans ?_
  rw [serve_bind_ok (serve_query _ db), hfiles, List.mergeSort_nil]
  rfl

/-- Beside a model there is another under the name that its deletion would give it. -/
def foreseenOps : List PlatformOperation :=
  chatCreation ++ .serve (.plain (.deleteModelFile "f" "x"))
    :: creation (namedRequest "chat__deleted__01234567" "/models/other") "b" "g" "u"

/-- The deletion of the model then fails. -/
theorem foreseen_deletion_fails :
    ¬ ∀ (deps : External) (db : Db) (ops : List PlatformOperation),
      Trace.Along (fun s op => PlatformOperation.perform deps s op) (ModelsUpdated deps)
        { db := { db with models := .empty } } ops →
      ∀ request : CatalogRequest, request.Acceptable deps (reached deps db ops) →
        request.Fair deps (reached deps db ops) := by
  intro hfair
  have hops : Trace.Along (fun s op => PlatformOperation.perform noExternal s op) (ModelsUpdated noExternal)
      { db := { emptyCatalog with models := .empty } } foreseenOps :=
    ⟨trivial, trivial, trivial, trivial, trivial, modelsUpdated_creation _ _ _ _ _ _⟩
  have hnames : (reached noExternal emptyCatalog foreseenOps).models.rows.map
      (fun model => (model.id, model.name)) = [(chatId, "chat"), ("b", "chat__deleted__01234567")] := by
    decide +kernel
  have hlive : ((reached noExternal emptyCatalog foreseenOps).models.find? chatId).any
      (·.deletedAt.isNone) = true := by
    decide +kernel
  have hrows : (reached noExternal emptyCatalog foreseenOps).modelInstances.rows.isEmpty = true := by
    decide +kernel
  have hfiles : ((reached noExternal emptyCatalog foreseenOps).modelFiles.rows.filter
      fun file => file.modelId = chatId && file.deletedAt.isNone).isEmpty = true := by
    decide +kernel
  have hacc : (CatalogRequest.deleteModel chatId fun _ => "x").Acceptable noExternal
      (reached noExternal emptyCatalog foreseenOps) := by
    have hserve := serve_trashModel_of_no_files (fun _ => "x") (List.isEmpty_iff.mp hrows) hlive
      (List.isEmpty_iff.mp hfiles)
    exact congrArg Prod.fst hserve
  have hfree := (fair_deleteModel_iff (namesUnique_reached hops) hacc).mp
    (hfair noExternal emptyCatalog foreseenOps hops _ hacc)
  obtain ⟨model, hmodel, hmodelName⟩ := List.mem_map.mp (hnames ▸ List.mem_cons_self :
    (chatId, "chat") ∈ (reached noExternal emptyCatalog foreseenOps).models.rows.map
      fun model => (model.id, model.name))
  obtain ⟨other, hother, hotherName⟩ := List.mem_map.mp (hnames ▸ List.mem_cons_of_mem _ List.mem_cons_self :
    ("b", "chat__deleted__01234567") ∈ (reached noExternal emptyCatalog foreseenOps).models.rows.map
      fun model => (model.id, model.name))
  obtain ⟨hid, hname⟩ := Prod.mk.inj hmodelName
  obtain ⟨hid', hname'⟩ := Prod.mk.inj hotherName
  refine hfree model hmodel hid other hother ?_ ?_
  · rw [hid']
    decide
  · have htext : "chat__deleted__01234567" = "chat" ++ "__deleted__" ++ String.ofList (chatId.toList.take 8) := by
      decide +kernel
    rw [hname', Model.releaseName, hid, hname]
    exact htext

end LightAI.Server
