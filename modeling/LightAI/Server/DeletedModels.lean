import LightAI.Server.FileRows
import LightAI.Server.FileUpdates
import LightAI.Server.InstanceRows
import LightAI.Server.NewInstances
import LightAI.Server.RuntimeChecks

/-!
# What is left of a deleted model

A model that is deleted keeps its files and its instances, and neither the creation nor the start of an
instance looks at the model. Both are kept from a deleted model by its files: as long as no live file
belongs to one, no instance is created for one, and a start of an old one finds its file deleted. An
instance whose runtime environment is Ollama's is started without a look at its file.
-/

namespace LightAI.Server

def Db.modelDeleted (db : Db) (id : String) : Bool := (db.models.find? id).any (·.deletedAt.isSome)

/-- The instance runs on a runtime environment that is not Ollama's. -/
def Db.startsFromFile (db : Db) (row : ModelInstance) : Prop :=
  ∃ envId env, row.runtimeEnvironmentId = some envId ∧
    db.runtimeEnvironments.find? envId = some env ∧ env.backend ≠ "ollama"

/-- The model that the file of a local instance is one of. -/
def Db.fileOfModel (db : Db) (row : ModelInstance) (modelId : String) : Prop :=
  ∃ fileId file, row.modelFileId = some fileId ∧ db.modelFiles.find? fileId = some file ∧
    file.modelId = modelId

/-- Nothing that an instance is created or started from is left of the dead models. -/
structure DeletedOut (dead : String → Bool) (db : Db) : Prop where
  files : ∀ file ∈ db.modelFiles.rows, file.deletedAt = none → dead file.modelId = false
  linked : ∀ row ∈ db.modelInstances.rows, row.deployType = "local" → ∀ modelId,
    row.modelId = some modelId → db.fileOfModel row modelId
  runtimes : ∀ row ∈ db.modelInstances.rows, row.deployType = "local" → ∀ modelId,
    row.modelId = some modelId → dead modelId = true → db.startsFromFile row

/-! ### When nothing is left -/

/-- The model is not there, or an instance of it is starting or running. -/
def Db.refusesDeletion (db : Db) (id : String) : Prop :=
  (db.models.find? id).any (·.deletedAt.isNone) = false ∨
    ∃ row ∈ db.modelInstances.rows, row.modelId = some id ∧
      (row.status = "starting" || row.status = "running") = true

/-- The deletion is refused, or it leaves nothing that an instance is created or started from. -/
def DeletesAll (db : Db) (id : String) : Prop :=
  db.refusesDeletion id ∨
    (∀ file ∈ db.modelFiles.rows, file.modelId = id → file.deletedAt ≠ none) ∧
      ∀ row ∈ db.modelInstances.rows, row.deployType = "local" → row.modelId = some id →
        db.startsFromFile row

/-- The requests bring nothing of a deleted model back: a model is deleted after its files, a file is
inserted for a model that is not deleted, and no runtime environment becomes Ollama's with instances of a
deleted model on it. The last case is what `update_model` does. -/
def DeletesUnused (deps : External) (s : Platform) : PlatformOperation → Prop
  | .serve (.deleteModel id _) => DeletesAll s.db id
  | .serve (.plain (.createModelInstance request _)) =>
      request.deployType = some "local" →
      ∀ envId env fileId file, request.runtimeEnvironmentId = some envId →
        s.db.runtimeEnvironments.find? envId = some env → env.backend = "ollama" →
        request.modelFileId = some fileId → s.db.modelFiles.find? fileId = some file →
        s.db.modelDeleted file.modelId = false
  | .serve (.plain (.updateRuntimeEnvironment id request)) =>
      updateApplies deps s.db id request = true → request.backend = "ollama" →
      ∀ row ∈ s.db.modelInstances.rows, row.deployType = "local" →
        row.runtimeEnvironmentId = some id → ∀ modelId, row.modelId = some modelId →
        s.db.modelDeleted modelId = false
  | .resume index =>
      match s.waiting[index]? with
      | some (.plain (.createModelFile modelId _ _ taskId _)) =>
          ((s.db.agentTasks.find? taskId).bind (·.verifiedFile s.db.clock)).isSome = true →
          s.db.modelDeleted modelId = false
      | _ => True
  | .act (.models table) => ∃ id name, table = updateModelRow s.db.models id name
  | _ => True

/-- A local instance is created with a file of a model that is not deleted, and one that is started has a
model that is not deleted, if it has one. -/
def ModelsLive (deps : External) (s : Platform) : PlatformOperation → Prop
  | .serve (.plain (.createModelInstance request id)) =>
      request.deployType = some "local" →
      (∃ view, (serve (createModelInstance deps request id) s.db).1 = .ok view) →
      ∀ fileId file, request.modelFileId = some fileId → s.db.modelFiles.find? fileId = some file →
        s.db.modelDeleted file.modelId = false
  | .serve (.plain (.startModelInstance id taskId _)) =>
      (serve (enqueueLocalInstanceTask deps id .startModelInstance "starting" taskId) s.db).1
        = .ok () →
      ∀ row modelId, s.db.modelInstances.find? id = some row → row.modelId = some modelId →
        s.db.modelDeleted modelId = false
  | _ => True

/-! ### Statements -/

section Statements

variable {dead : String → Bool} {stmt : Stmt} {db : Db}

/-- The statement brings nothing of a dead model back. -/
def Stmt.LeavesOut (dead : String → Bool) (db : Db) : Stmt → Prop
  | insertModelFile file => dead file.modelId = false
  | insertModelInstance row =>
      row.deployType = "local" → ∀ modelId, row.modelId = some modelId →
        dead modelId = false ∧ db.fileOfModel row modelId
  | updateRuntime id update _ =>
      update.backend = "ollama" → ∀ row ∈ db.modelInstances.rows, row.deployType = "local" →
        row.runtimeEnvironmentId = some id → ∀ modelId, row.modelId = some modelId →
        dead modelId = false
  | _ => True

/-- A runtime environment with an instance on it stays, and changes its backend only in an update. -/
theorem find?_runtime_exec_of_used (stmt : Stmt) {envId : String} {env : RuntimeEnvironment}
    (henv : db.runtimeEnvironments.find? envId = some env)
    (hused : ∃ row ∈ db.modelInstances.rows, row.runtimeEnvironmentId = some envId) :
    ∃ env', (stmt.exec db).2.runtimeEnvironments.find? envId = some env' ∧
      (env'.backend = env.backend ∨
        ∃ update now, stmt = .updateRuntime envId update now ∧ env'.backend = update.backend) := by
  have hwritten : ∀ {id : String} {f : RuntimeEnvironment → RuntimeEnvironment},
      RuntimeWritten id f db (stmt.exec db).2 → (∀ row, (f row).backend = row.backend) →
      ∃ env', (stmt.exec db).2.runtimeEnvironments.find? envId = some env' ∧
        env'.backend = env.backend := by
    intro id f hwritten hf
    rw [hwritten envId, henv]
    by_cases hid : envId = id
    · rw [if_pos hid]
      exact ⟨f env, rfl, hf env⟩
    · rw [if_neg hid]
      exact ⟨env, rfl, rfl⟩
  have hsame : stmt.Among outsideRuntimeWrites →
      ∃ env', (stmt.exec db).2.runtimeEnvironments.find? envId = some env' ∧
        env'.backend = env.backend := by
    intro hamong
    have hruntimes : (stmt.exec db).2.runtimeEnvironments = db.runtimeEnvironments :=
      sameRuntimes_exec hamong db
    rw [hruntimes]
    exact ⟨env, henv, rfl⟩
  have hkept : (∃ env', (stmt.exec db).2.runtimeEnvironments.find? envId = some env' ∧
        env'.backend = env.backend) →
      ∃ env', (stmt.exec db).2.runtimeEnvironments.find? envId = some env' ∧
        (env'.backend = env.backend ∨
          ∃ update now, stmt = .updateRuntime envId update now ∧ env'.backend = update.backend) :=
    fun ⟨env', hfind, hbackend⟩ => ⟨env', hfind, .inl hbackend⟩
  cases stmt with
  | insertRuntime row =>
      apply hkept
      rcases exec_insertRuntime row db with hrefused | ⟨-, hfresh, hfind⟩
      · rw [hrefused]
        exact ⟨env, henv, rfl⟩
      · have hne : envId ≠ row.id := by
          rintro rfl
          rw [hfresh] at henv
          cases henv
        rw [hfind, if_neg hne]
        exact ⟨env, henv, rfl⟩
  | updateRuntime id update now =>
      have hfind := runtimeWritten_update id update now db envId
      rw [henv] at hfind
      by_cases hid : envId = id
      · subst hid
        rw [if_pos rfl] at hfind
        exact ⟨env.update update now, hfind, .inr ⟨update, now, rfl, rfl⟩⟩
      · rw [if_neg hid] at hfind
        exact ⟨env, hfind, .inl rfl⟩
  | setRuntimeChecked id checked now =>
      exact hkept (hwritten (runtimeWritten_setChecked id checked now db) fun _ => rfl)
  | updateRuntimeCheck id status message now =>
      exact hkept (hwritten (runtimeWritten_updateCheck id status message now db) fun _ => rfl)
  | deleteRuntime id =>
      apply hkept
      simp only [Stmt.exec]
      split
      · exact ⟨env, henv, rfl⟩
      · rename_i hunused
        have hne : envId ≠ id := by
          rintro rfl
          apply hunused
          rw [List.any_eq_true]
          obtain ⟨row, hrow, hruntime⟩ := hused
          exact ⟨row, hrow, decide_eq_true hruntime⟩
        exact ⟨env, (Table.find?_delete _ id envId).trans ((if_neg hne).trans henv), rfl⟩
  | _ =>
      apply hkept
      apply hsame
      intro w hw
      cases hw <;> decide

theorem fileOfModel_exec {row row' : ModelInstance} {modelId : String}
    (hfile : row'.modelFileId = row.modelFileId) (h : db.fileOfModel row modelId) :
    (stmt.exec db).2.fileOfModel row' modelId := by
  obtain ⟨fileId, file, hfileId, hfind, hmodel⟩ := h
  obtain ⟨file', hfind', hrewrites⟩ := find?_file_exec_of_some stmt hfind
  exact ⟨fileId, file', hfile.trans hfileId, hfind', hrewrites.modelId.trans hmodel⟩

theorem deletedOut_exec (hstmt : stmt.LeavesOut dead db) (h : DeletedOut dead db) :
    DeletedOut dead (stmt.exec db).2 where
  files file' hmem hlive := by
    rcases find?_file_exec (Table.find?_of_mem hmem) with rfl | ⟨file, hfind, hrewrites⟩
    · exact hstmt
    · rw [hrewrites.modelId]
      exact h.files file (Table.find?_mem hfind) (hrewrites.live hlive)
  linked row' hmem hlocal modelId hmodel := by
    rcases modelInstances_exec stmt db hmem with rfl | ⟨row, hrow, hrewrites⟩
    · exact fileOfModel_exec rfl (hstmt hlocal modelId hmodel).2
    · have hlinks := hrewrites.sameLinks
      exact fileOfModel_exec hlinks.modelFileId (h.linked row hrow (hlinks.deployType ▸ hlocal) modelId
        (hlinks.modelId ▸ hmodel))
  runtimes row' hmem hlocal modelId hmodel hdead := by
    rcases modelInstances_exec stmt db hmem with rfl | ⟨row, hrow, hrewrites⟩
    · have hlive := (hstmt hlocal modelId hmodel).1
      rw [hdead] at hlive
      cases hlive
    · have hlinks := hrewrites.sameLinks
      rw [hlinks.deployType] at hlocal
      rw [hlinks.modelId] at hmodel
      obtain ⟨envId, env, hruntime, henv, hbackend⟩ := h.runtimes row hrow hlocal modelId hmodel hdead
      obtain ⟨env', henv', hkept | ⟨update, now, rfl, hupdated⟩⟩ :=
        find?_runtime_exec_of_used stmt henv ⟨row, hrow, hruntime⟩
      · exact ⟨envId, env', hlinks.runtimeEnvironmentId.trans hruntime, henv', hkept ▸ hbackend⟩
      · refine ⟨envId, env', hlinks.runtimeEnvironmentId.trans hruntime, henv', ?_⟩
        intro hollama
        have hlive := hstmt (hupdated.symm.trans hollama) row hrow hlocal hruntime modelId hmodel
        rw [hdead] at hlive
        cases hlive

/-- The kinds of writes that may bring something of a dead model back. -/
def linkWrites : List Write := [.insertModelFile, .insertModelInstance, .updateRuntime]

theorem respected_deletedOut {writes : List Write} (hother : ∀ w ∈ writes, w ∉ linkWrites) :
    Respected (fun db db' => ∀ dead, DeletedOut dead db → DeletedOut dead db') writes where
  refl _ _ h := h
  trans _ _ _ h h' dead hdb := h' dead (h dead hdb)
  exec stmt db hamong dead h := by
    refine deletedOut_exec ?_ h
    have hnot : ∀ w, stmt.write = some w → w ∉ linkWrites := fun w hw => hother w (hamong w hw)
    cases stmt with
    | insertModelFile file => exact absurd (by decide) (hnot _ rfl)
    | insertModelInstance row => exact absurd (by decide) (hnot _ rfl)
    | updateRuntime id update now => exact absurd (by decide) (hnot _ rfl)
    | _ => trivial
  models _ _ _ h := ⟨h.files, h.linked, h.runtimes⟩

end Statements

/-! ### Which models are deleted -/

theorem models_exec (stmt : Stmt) (db : Db) : (stmt.exec db).2.models = db.models := by
  have hinsert : ∀ {κ ρ : Type} [DecidableEq κ] {key : ρ → κ} (allowed : Bool)
      (table : Table κ ρ key) (row : ρ) {commit : Table κ ρ key → Db},
      (∀ table', (commit table').models = db.models) →
      (insertRow db allowed table row commit).2.models = db.models :=
    fun allowed table row _ hcommit => insertRow_projection Db.models db allowed table row hcommit
  cases stmt with
  | insertAgentTask task => exact hinsert _ _ _ fun _ => rfl
  | enqueueInstanceTask task => exact hinsert _ _ _ fun _ => rfl
  | enqueueFileVerification task => exact hinsert _ _ _ fun _ => rfl
  | recordResult selected status result now =>
      exact exec_recordResult_projection Db.models (fun _ _ => rfl) (fun _ _ _ _ => rfl)
        (fun _ _ _ _ => rfl) (fun _ _ _ _ => rfl) status result now
  | insertModelFile file => exact hinsert _ _ _ fun _ => rfl
  | insertTrash item => exact hinsert _ _ _ fun _ => rfl
  | insertModelInstance row => exact hinsert _ _ _ fun _ => rfl
  | insertRuntime row => exact hinsert _ _ _ fun _ => rfl
  | deleteRuntime runtimeId =>
      simp only [Stmt.exec]
      split <;> rfl
  | recordHeartbeat request now =>
      simp only [Stmt.exec]
      split <;> rfl
  | _ => rfl

theorem serve_models {α : Type} (h : Handler α) (db : Db) : (serve h db).2.models = db.models := by
  have hall : h.run.Performs fun _ => True := Program.performs_true h.run
  have htrans : ∀ db db' db'' : Db, db'.models = db.models → db''.models = db'.models →
      db''.models = db.models := fun _ _ _ h h' => h'.trans h
  exact Program.Performs.run_rel (R := fun db db' => db'.models = db.models) (fun _ => rfl) htrans
    (fun stmt db _ => models_exec stmt db) hall db

theorem modelDeleted_congr {db db' : Db} (h : db'.models = db.models) :
    db'.modelDeleted = db.modelDeleted := by
  funext id
  unfold Db.modelDeleted
  rw [h]

/-- An update that keeps the mark of deletion. -/
theorem modelDeleted_updateWhere {db : Db} {p : Model → Bool} {f : Model → Model}
    (hf : ∀ model, (f model).id = model.id) (hmark : ∀ model, (f model).deletedAt = model.deletedAt) :
    ({ db with models := db.models.updateWhere p f hf } : Db).modelDeleted = db.modelDeleted := by
  funext id
  unfold Db.modelDeleted
  dsimp only
  rw [Table.find?_updateWhere]
  cases db.models.find? id with
  | none => rfl
  | some model =>
      change (if p model = true then f model else model).deletedAt.isSome = model.deletedAt.isSome
      split
      · rw [hmark]
      · rfl

/-- A model that is created is not deleted, and no other becomes so. -/
theorem modelDeleted_insertModel {db : Db} {name : String} {model : Model}
    {models : Table String Model Model.id}
    (h : insertModel (releaseModelName db.models name) model = some models)
    (hlive : model.deletedAt = none) :
    ({ db with models } : Db).modelDeleted = db.modelDeleted := by
  have hreleased : ({ db with models := releaseModelName db.models name } : Db).modelDeleted
      = db.modelDeleted :=
    modelDeleted_updateWhere (f := Model.releaseName) (fun _ => rfl) fun _ => rfl
  unfold insertModel at h
  split at h
  · rw [← hreleased]
    funext id
    unfold Db.modelDeleted
    dsimp only
    rw [Table.find?_insert? h]
    by_cases hid : id = model.id
    · subst hid
      rw [if_pos rfl, Table.insert?_fresh h, Option.any_some, hlive]
      rfl
    · rw [if_neg hid]
  · cases h

theorem modelDeleted_deleteModelRow {db : Db} {id id' : String} {now : Int}
    (h : ({ db with models := deleteModelRow db.models id now } : Db).modelDeleted id' = true)
    (hne : id' ≠ id) : db.modelDeleted id' = true := by
  have hfind : (releaseDeleted db.models id now).find? id' = (db.models.find? id').map fun model =>
      if (model.id = id && model.deletedAt.isNone) = true then
        { model.releaseName with deletedAt := some now }
      else model := Table.find?_updateWhere _ _ _ _ id'
  unfold deleteModelRow at h
  split at h
  · unfold Db.modelDeleted at h ⊢
    dsimp only at h
    rw [hfind] at h
    cases hmodel : db.models.find? id' with
    | none =>
        rw [hmodel] at h
        cases h
    | some model =>
        have hid : model.id = id' := Table.find?_key hmodel
        rw [hmodel, Option.map_some, if_neg (by simp [hid, hne])] at h
        exact h
  · exact h

/-! ### Requests -/

section Requests

variable {dead : String → Bool} {db : Db}

theorem deletedOut_of_uses {α : Type} {writes : List Write} {h : Handler α} (huses : Uses writes h)
    (hother : ∀ w ∈ writes, w ∉ linkWrites) (hdb : DeletedOut dead db) :
    DeletedOut dead (serve h db).2 :=
  huses.respects (respected_deletedOut hother) db dead hdb

theorem deletedOut_createModelInstance (deps : External) (request : ModelInstanceCreateRequest)
    (id : String) (hdb : DeletedOut dead db) :
    DeletedOut dead (serve (createModelInstance deps request id) db).2 := by
  rcases serve_createModelInstance_cases deps request id db with
    ⟨e, hfails⟩ | ⟨row, -, -, hlocal, hinserted⟩
  · rw [hfails]
    exact hdb
  · rw [hinserted]
    refine deletedOut_exec ?_ hdb
    intro hdeploy modelId hmodel
    obtain ⟨new⟩ := hlocal hdeploy
    have hnew := new.model
    unfold NewLocalModel at hnew
    split at hnew
    · rw [hnew.1] at hmodel
      cases hmodel
    · obtain ⟨fileId, file, -, hfind, hlive, -, -, hfileModel, hfileId⟩ := hnew
      obtain rfl := Option.some.inj (hfileModel.symm.trans hmodel)
      exact ⟨hdb.files file (Table.find?_mem hfind) hlive, fileId, file, hfileId, hfind, rfl⟩

theorem deletedOut_updateRuntimeEnvironment (deps : External) (id : String)
    (request : RuntimeEnvironmentRequest)
    (hrequest : updateApplies deps db id request = true → request.backend = "ollama" →
      ∀ row ∈ db.modelInstances.rows, row.deployType = "local" →
        row.runtimeEnvironmentId = some id → ∀ modelId, row.modelId = some modelId →
        dead modelId = false) (hdb : DeletedOut dead db) :
    DeletedOut dead (serve (updateRuntimeEnvironment deps id request) db).2 := by
  rw [serve_updateRuntimeEnvironment]
  by_cases happlies : updateApplies deps db id request = true
  case neg =>
    rw [if_neg happlies]
    exact hdb
  rw [if_pos happlies]
  obtain ⟨update, -, hbackend, hother, hollama, hmissing⟩ := serve_saveRuntimeEnvironment id request db
  have hwritten : DeletedOut dead ((Stmt.updateRuntime id update db.clock).exec db).2 := by
    refine deletedOut_exec ?_ hdb
    intro hisOllama
    exact hrequest happlies (hbackend.symm.trans hisOllama)
  by_cases hisOllama : request.backend = "ollama"
  · cases hfound : (db.runtimeEnvironments.find? id).isSome with
    | false =>
        rw [hmissing hfound]
        exact hwritten
    | true =>
        rw [hollama hisOllama hfound]
        have huses : Uses [.updateRuntimeCheck] (refreshOllamaCheck id) :=
          uses_refreshOllamaCheck (by decide) id
        exact deletedOut_of_uses huses (by decide) hwritten
  · rw [hother hisOllama]
    exact hwritten

theorem deletedOut_finishFileCreation (modelId : String) (request : ModelFileRequest)
    (id taskId : String) (rounds : Nat)
    (hrequest : ((db.agentTasks.find? taskId).bind (·.verifiedFile db.clock)).isSome = true →
      dead modelId = false) (hdb : DeletedOut dead db) :
    DeletedOut dead (serve (finishFileCreation modelId request id taskId rounds) db).2 := by
  have huses : Uses [.markTaskTimedOut] (waitForModelFileVerification taskId rounds) :=
    uses_waitForModelFileVerification (by decide) taskId rounds
  have hwaited := deletedOut_of_uses huses (by decide) hdb
  unfold finishFileCreation
  rcases serve_waitForVerification taskId rounds db with
    ⟨verified, hverified, hwait⟩ | ⟨-, e, db', hwait, -⟩
  · rw [serve_bind_ok hwait, serve_bind_ok (serve_nowUnixSecs db)]
    have hlive : dead modelId = false := hrequest (by rw [hverified]; rfl)
    have hread : ∀ w ∈ fileReadWrites, w ∉ linkWrites := by decide
    refine (respected_deletedOut hread).after_execute (fun accepted => ?_) db dead
      (deletedOut_exec ?_ hdb)
    · exact uses_bind (uses_inserted accepted) fun _ => uses_modelFile (by decide) id
    · exact hlive
  · rw [hwait] at hwaited
    rw [serve_bind_error hwait]
    exact hwaited

theorem deletedOut_createModelRows {model : Model} {file : ModelFile} (hlive : model.deletedAt = none)
    (hfile : file.modelId = model.id) (hdb : DeletedOut db.modelDeleted db) :
    DeletedOut (createModelRows model file db).modelDeleted (createModelRows model file db) := by
  unfold createModelRows
  split
  · exact hdb
  · rename_i models hinserted
    have hdeleted := modelDeleted_insertModel hinserted hlive
    have hmodels : DeletedOut db.modelDeleted { db with models } :=
      ⟨hdb.files, hdb.linked, hdb.runtimes⟩
    dsimp only
    split
    · rw [modelDeleted_congr (models_exec (.insertModelFile file) { db with models }), hdeleted]
      refine deletedOut_exec ?_ hmodels
      change db.modelDeleted file.modelId = false
      unfold insertModel at hinserted
      split at hinserted
      · have hfound : ({ db with models } : Db).modelDeleted model.id = false := by
          unfold Db.modelDeleted
          dsimp only
          rw [Table.find?_insert? hinserted, if_pos rfl, Option.any_some, hlive]
          rfl
        rw [hfile, ← hdeleted]
        exact hfound
      · cases hinserted
    · exact hdb

/-- What the deletion of a model is left with once the files are in the trash. -/
def LeftOver (db db' : Db) : Prop :=
  db'.runtimeEnvironments = db.runtimeEnvironments ∧
    (∀ file' ∈ db'.modelFiles.rows, ∃ file ∈ db.modelFiles.rows, file'.modelId = file.modelId ∧
      (file'.deletedAt = none → file.deletedAt = none)) ∧
    ∀ row' ∈ db'.modelInstances.rows, ∃ row ∈ db.modelInstances.rows, row.SameLinks row'

theorem respected_leftOver : Respected LeftOver (.insertTrash :: fileReadWrites) where
  refl db := ⟨rfl, fun file hfile => ⟨file, hfile, rfl, fun h => h⟩,
    fun row hrow => ⟨row, hrow, ModelInstance.SameLinks.refl row⟩⟩
  trans db db' db'' := by
    rintro ⟨hruntimes, hfiles, hrows⟩ ⟨hruntimes', hfiles', hrows'⟩
    refine ⟨hruntimes'.trans hruntimes, ?_, ?_⟩
    · intro file'' hmem
      obtain ⟨file', hfile', hmodel', hlive'⟩ := hfiles' file'' hmem
      obtain ⟨file, hfile, hmodel, hlive⟩ := hfiles file' hfile'
      exact ⟨file, hfile, hmodel'.trans hmodel, fun h => hlive (hlive' h)⟩
    · intro row'' hmem
      obtain ⟨row', hrow', hlinks'⟩ := hrows' row'' hmem
      obtain ⟨row, hrow, hlinks⟩ := hrows row' hrow'
      exact ⟨row, hrow, hlinks.trans hlinks'⟩
  exec stmt db hamong := by
    refine ⟨sameRuntimes_exec (fun w hw => ?_) db, ?_, ?_⟩
    · have hmem := hamong w hw
      have hsub : (.insertTrash :: fileReadWrites : List Write) ⊆ outsideRuntimeWrites := by decide
      exact hsub hmem
    · intro file' hmem
      rcases find?_file_exec (Table.find?_of_mem hmem) with rfl | ⟨file, hfind, hrewrites⟩
      · exact absurd (hamong _ rfl) (by decide)
      · exact ⟨file, Table.find?_mem hfind, hrewrites.modelId, hrewrites.live⟩
    · intro row' hmem
      rcases modelInstances_exec stmt db hmem with rfl | ⟨row, hrow, hrewrites⟩
      · exact absurd (hamong _ rfl) (by decide)
      · exact ⟨row, hrow, hrewrites.sameLinks⟩
  models db models := ⟨rfl, fun file hfile => ⟨file, hfile, rfl, fun h => h⟩,
    fun row hrow => ⟨row, hrow, ModelInstance.SameLinks.refl row⟩⟩

theorem uses_beginFileCreation (modelId : String) (request : ModelFileRequest) (taskId : String) :
    Uses plainTaskWrites (beginFileCreation modelId request taskId) := by
  unfold beginFileCreation
  apply uses_bind (uses_checked _)
  intro _
  apply uses_bind (uses_checked _)
  intro _
  apply uses_bind (uses_ensureModelExists _)
  intro _
  apply uses_bind (uses_ensureNodeExists _)
  intro _
  exact uses_enqueueVerification (fun _ hw => hw) _ _ _

theorem serve_trashModel_refused {id : String} (h : db.refusesDeletion id)
    (trashId : String → String) : ∃ e, serve (trashModel id trashId) db = (.error e, db) := by
  unfold trashModel
  rcases serve_reads_bind (uses_query _) _ db with hfails | ⟨protectedCount, hcount, hserve⟩
  · exact hfails
  rw [hserve]
  rcases serve_reads_bind (uses_rejectIf _ _) _ db with hfails | ⟨_, hrejected, hserve⟩
  · exact hfails
  rw [hserve, serve_bind_ok (serve_query _ db)]
  rcases h with hmissing | ⟨row, hrow, hmodel, hstatus⟩
  · rw [hmissing]
    exact ⟨_, serve_bind_error (serve_rejectIf_true _ db) _⟩
  · have hnone := of_decide_eq_false (serve_rejectIf_ok hrejected)
    obtain ⟨hcount, -⟩ := serve_query_ok hcount
    have hmem : row ∈ db.modelInstances.rows.filter fun row =>
        row.modelId = some id && (row.status = "starting" || row.status = "running") := by
      rw [List.mem_filter, hstatus, hmodel]
      exact ⟨hrow, by simp⟩
    rw [hcount] at hnone
    exact absurd (List.length_pos_of_mem hmem) hnone

theorem deletedOut_deleteModel {id : String} {trashId : String → String} {db' : Db} {u : Unit}
    (hserve : serve (trashModel id trashId) db = (.ok u, db')) (hall : DeletesAll db id)
    (hdb : DeletedOut db.modelDeleted db) (now : Int) :
    DeletedOut ({ db' with models := deleteModelRow db'.models id now } : Db).modelDeleted
      { db' with models := deleteModelRow db'.models id now } := by
  have huses : Uses (.insertTrash :: fileReadWrites) (trashModel id trashId) :=
    uses_trashModel (by decide) (by decide) id trashId
  have hsame := deletedOut_of_uses huses (by decide) hdb
  obtain ⟨hruntimes, hfiles, hrows⟩ := huses.respects respected_leftOver db
  have hmodels := serve_models (trashModel id trashId) db
  rw [hserve] at hsame hruntimes hfiles hrows hmodels
  dsimp only at hsame hruntimes hfiles hrows hmodels
  have hdeleted : ∀ modelId, modelId ≠ id →
      ({ db' with models := deleteModelRow db'.models id now } : Db).modelDeleted modelId = true →
      db.modelDeleted modelId = true := by
    intro modelId hne hdead
    have hbefore := modelDeleted_deleteModelRow hdead hne
    rwa [modelDeleted_congr hmodels] at hbefore
  rcases hall with hrefused | ⟨hnofile, hnorow⟩
  · obtain ⟨e, hfails⟩ := serve_trashModel_refused hrefused trashId
    rw [hserve] at hfails
    cases hfails
  constructor
  · intro file' hmem hlive
    by_contra hdead
    rw [Bool.not_eq_false] at hdead
    obtain ⟨file, hfile, hmodel, hstill⟩ := hfiles file' hmem
    by_cases hid : file'.modelId = id
    · exact hnofile file hfile (hmodel.symm.trans hid) (hstill hlive)
    · have hnot := hsame.files file' hmem hlive
      rw [hdeleted _ hid hdead] at hnot
      cases hnot
  · intro row' hmem hlocal modelId hmodel
    exact hsame.linked row' hmem hlocal modelId hmodel
  · intro row' hmem hlocal modelId hmodel hdead
    by_cases hid : modelId = id
    · obtain ⟨row, hrow, hlinks⟩ := hrows row' hmem
      obtain ⟨envId, env, hruntime, henv, hbackend⟩ := hnorow row hrow
        (hlinks.deployType.symm.trans hlocal) ((hlinks.modelId.symm.trans hmodel).trans (by rw [hid]))
      refine ⟨envId, env, hlinks.runtimeEnvironmentId.trans hruntime, ?_, hbackend⟩
      exact (congrArg (·.find? envId) hruntimes).trans henv
    · exact hsame.runtimes row' hmem hlocal modelId hmodel (hdeleted modelId hid hdead)

end Requests

/-! ### Runs -/

/-- Nothing that an instance is created or started from is left of the deleted models. -/
def Platform.DeletedOut (s : Platform) : Prop := Server.DeletedOut s.db.modelDeleted s.db

theorem deletedOut_begin (deps : External) {s : Platform} (hs : s.DeletedOut)
    (request : PlatformRequest) (hop : DeletesUnused deps s (.serve request)) :
    DeletedOut (request.begin deps s.db).2.modelDeleted (request.begin deps s.db).2 := by
  cases request with
  | createModel request id fileId taskId rounds =>
      have huses : Uses plainTaskWrites (beginModelCreation deps request taskId) :=
        uses_bind (uses_initialModelFile deps request) fun initialFile =>
          uses_enqueueVerification (fun _ hw => hw) _ _ _
      have hmodels := serve_models (beginModelCreation deps request taskId) s.db
      have hkept := deletedOut_of_uses huses (by decide) hs
      simp only [PlatformRequest.begin]
      split <;> rename_i hserve <;> rw [hserve] at hkept hmodels <;>
        rwa [modelDeleted_congr hmodels]
  | deleteModel id trashId =>
      have huses : Uses (.insertTrash :: fileReadWrites) (trashModel id trashId) :=
        uses_trashModel (by decide) (by decide) id trashId
      have hmodels := serve_models (trashModel id trashId) s.db
      have hkept := deletedOut_of_uses huses (by decide) hs
      simp only [PlatformRequest.begin]
      split
      · rename_i db' hserve
        exact deletedOut_deleteModel hserve hop hs db'.clock
      · rename_i hserve
        rw [hserve] at hkept hmodels
        rwa [modelDeleted_congr hmodels]
  | plain request =>
      rw [db_begin_plain, modelDeleted_congr (serve_models _ _)]
      have hother : (∀ w ∈ request.writes, w ∉ linkWrites) →
          DeletedOut s.db.modelDeleted (serve (request.begin deps) s.db).2 :=
        fun hwrites => deletedOut_of_uses (uses_begin deps request) hwrites hs
      cases request
      case createModelInstance request id =>
          change DeletedOut _ (serve (ended (answered (createModelInstance deps request id))) s.db).2
          rw [serve_ended_answered]
          exact deletedOut_createModelInstance deps request id hs
      case updateRuntimeEnvironment id request =>
          change DeletedOut _
            (serve (ended (answered (updateRuntimeEnvironment deps id request))) s.db).2
          rw [serve_ended_answered]
          exact deletedOut_updateRuntimeEnvironment deps id request hop hs
      case createModelFile modelId request id taskId rounds =>
          have huses : Uses plainTaskWrites (waits (beginFileCreation modelId request taskId)) :=
            uses_bind (uses_beginFileCreation modelId request taskId) fun _ => uses_pure _
          exact deletedOut_of_uses huses (by decide) hs
      all_goals
        apply hother
        simp only [Request.writes]
        decide

theorem deletedOut_finish {s : Platform} (hs : s.DeletedOut) {index : Nat} {request : PlatformRequest}
    (hget : s.waiting[index]? = some request) {deps : External}
    (hop : DeletesUnused deps s (.resume index)) :
    DeletedOut (request.finish s.db).modelDeleted (request.finish s.db) := by
  simp only [DeletesUnused, hget] at hop
  cases request with
  | createModel request id fileId taskId rounds =>
      have huses : Uses [.markTaskTimedOut] (waitForModelFileVerification taskId rounds) :=
        uses_waitForModelFileVerification (by decide) taskId rounds
      have hmodels := serve_models (waitForModelFileVerification taskId rounds) s.db
      have hkept := deletedOut_of_uses huses (by decide) hs
      simp only [PlatformRequest.finish]
      split <;> rename_i hserve <;> rw [hserve] at hkept hmodels
      · rw [← modelDeleted_congr hmodels] at hkept
        cases request.initialFile with
        | none => exact hkept
        | some initialFile => exact deletedOut_createModelRows rfl rfl hkept
      · rwa [modelDeleted_congr hmodels]
  | deleteModel id trashId => exact hs
  | plain request =>
      have hmodels : (PlatformRequest.finish (.plain request) s.db).models = s.db.models :=
        serve_models request.finish s.db
      rw [modelDeleted_congr hmodels]
      have hother : (∀ w ∈ request.writes, w ∉ linkWrites) →
          DeletedOut s.db.modelDeleted (serve request.finish s.db).2 :=
        fun hwrites => deletedOut_of_uses (uses_finish request) hwrites hs
      cases request
      case createModelInstance request id => exact hs
      case updateRuntimeEnvironment id request => exact hs
      case createModelFile modelId request id taskId rounds =>
          change DeletedOut _
            (serve (answered (finishFileCreation modelId request id taskId rounds)) s.db).2
          rw [answered, serve_then_pure]
          exact deletedOut_finishFileCreation modelId request id taskId rounds hop hs
      all_goals
        apply hother
        simp only [Request.writes]
        decide

theorem deletedOut_perform (deps : External) (s : Platform) (op : PlatformOperation)
    (hs : s.DeletedOut) (hop : DeletesUnused deps s op) : (op.perform deps s).DeletedOut := by
  cases op with
  | serve request => exact deletedOut_begin deps hs request hop
  | resume index =>
      simp only [PlatformOperation.perform]
      split
      · exact hs
      · rename_i request hget
        exact deletedOut_finish hs hget hop
  | act action =>
      cases action with
      | models table =>
          obtain ⟨id, name, rfl⟩ := hop
          have hdeleted : ({ s.db with models := updateModelRow s.db.models id name } : Db).modelDeleted
              = s.db.modelDeleted :=
            modelDeleted_updateWhere (f := fun model => { model with name }) (fun _ => rfl)
              fun _ => rfl
          change DeletedOut _ { s.db with models := updateModelRow s.db.models id name }
          refine hdeleted ▸ ⟨hs.files, hs.linked, hs.runtimes⟩
      | tick now => exact ⟨hs.files, hs.linked, hs.runtimes⟩
      | nodes table => exact ⟨hs.files, hs.linked, hs.runtimes⟩
      | policies table => exact ⟨hs.files, hs.linked, hs.runtimes⟩

theorem modelsLive_of_deletedOut (deps : External) (s : Platform) (op : PlatformOperation)
    (hs : s.DeletedOut) (hop : DeletesUnused deps s op) : ModelsLive deps s op := by
  cases op with
  | resume index => trivial
  | act action => trivial
  | serve request =>
  cases request with
  | createModel request id fileId taskId rounds => trivial
  | deleteModel id trashId => trivial
  | plain request =>
  cases request
  case createModelInstance request id =>
    rintro hdeploy ⟨view, hview⟩ fileId file hfileId hfind
    rcases serve_createModelInstance_cases deps request id s.db with
      ⟨e, hfails⟩ | ⟨row, -, hrowDeploy, hlocal, -⟩
    · rw [hfails] at hview
      cases hview
    · rw [hdeploy, Option.getD_some] at hrowDeploy
      obtain ⟨new⟩ := hlocal hrowDeploy
      have hnew := new.model
      unfold NewLocalModel at hnew
      split at hnew
      · rename_i hollama
        exact hop hdeploy new.envId new.env fileId file new.requested new.find_env hollama hfileId hfind
      · obtain ⟨fileId', file', hfileId', hfind', hlive, -⟩ := hnew
        obtain rfl := Option.some.inj (hfileId.symm.trans hfileId')
        obtain rfl := Option.some.inj (hfind.symm.trans hfind')
        exact hs.files file (Table.find?_mem hfind) hlive
  case startModelInstance id taskId rounds =>
    intro hok row modelId hrow hmodel
    rcases serve_enqueue_cases deps id .startModelInstance "starting" taskId s.db with
      ⟨e, hfails⟩ | ⟨task, ⟨hfor⟩, -, -⟩
    · rw [hfails] at hok
      cases hok
    · obtain rfl := Option.some.inj (hfor.find_row.symm.trans hrow)
      have hmem := Table.find?_mem hrow
      have hfile := hfor.taskFile
      cases htaskFile : hfor.file with
      | none =>
          rw [htaskFile] at hfile
          by_contra hdead
          rw [Bool.not_eq_false] at hdead
          obtain ⟨envId, env, hruntime, henv, hbackend⟩ :=
            hs.runtimes _ hmem hfor.isLocal modelId hmodel hdead
          obtain rfl := Option.some.inj (hfor.runtime.symm.trans hruntime)
          obtain rfl := Option.some.inj (hfor.find_env.symm.trans henv)
          exact hbackend hfile
      | some taskFile =>
          rw [htaskFile] at hfile
          obtain ⟨-, hfileId, file, hfind, hlive, -⟩ := hfile
          obtain ⟨fileId', file', hfileId', hfind', hfileModel⟩ :=
            hs.linked _ hmem hfor.isLocal modelId hmodel
          rw [Option.some.inj (hfileId.symm.trans hfileId'), hfind'] at hfind
          rw [← hfileModel, Option.some.inj hfind]
          exact hs.files file (Table.find?_mem (hfind'.trans hfind)) hlive
  all_goals trivial

theorem deletedOut_readyDb : DeletedOut readyDb.modelDeleted readyDb where
  files file hmem _ := by
    rw [List.mem_singleton.mp hmem]
    rfl
  linked row hmem := absurd hmem List.not_mem_nil
  runtimes row hmem := absurd hmem List.not_mem_nil

def chatRequest : ModelInstanceCreateRequest where
  name := "chat"
  deployType := some "local"
  nodeId := some "n"
  runtimeEnvironmentId := some "r"
  modelFileId := some "f"

/-- The trash item of the file that is still there. -/
def trashedFile : ModelFileTrash where
  id := "x"
  modelFileId := some "f"
  modelId := some "m"
  nodeId := some "n"
  path := "/models/chat"
  reason := some "Delete model configuration"
  status := .pending
  note := some <| "Model config removed; actual files not deleted. " ++
    "Process individually in Trash."
  createdAt := 1000
  updatedAt := 1000

end LightAI.Server
