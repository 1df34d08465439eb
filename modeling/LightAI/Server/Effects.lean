import LightAI.Server.Statement

/-!
# What a statement does to the task rows

Only the two enqueueing transactions and the plain insert add a task, none removes one, and a task
that exists is changed by the claim of a poll, by a committed result and by the guarded timeout.
Every invariant of the tasks is derived from this.
-/

namespace LightAI.Server

/-- The row that a task's payload names, which its result and its timeout write. -/
inductive Entity where
  | instance (id : String)
  | file (id : String)
  | trash (id : String)
  deriving DecidableEq

def AgentTask.entity (task : AgentTask) : Option Entity :=
  match task.kind with
  | .verifyModelFile => (task.payloadJson.getStr "model_file_id").map .file
  | .cleanupModelFile => (task.payloadJson.getStr "trash_id").map .trash
  | .startModelInstance | .stopModelInstance | .checkModelInstance | .testModelInstance =>
      (task.payloadJson.getStr "instance_id").map .instance
  | _ => none

/-- There is a `queued` or `running` task of this id, as the guard of the timeout asks. -/
def Db.liveTask (db : Db) (id : String) : Bool := (db.agentTasks.find? id).any (·.status.isLive)

/-- The payload names the row that a result of this kind must write. -/
def AgentTask.resultCommits (task : AgentTask) : Bool :=
  match task.kind with
  | .cleanupModelFile => (task.payloadJson.getStr "trash_id").isSome
  | .startModelInstance | .stopModelInstance | .checkModelInstance | .testModelInstance =>
      (task.payloadJson.getStr "instance_id").isSome
  | _ => true

/-- The task that a statement enqueues, unless a constraint refuses it. -/
def Stmt.enqueues : Stmt → Option AgentTask
  | insertAgentTask task | enqueueInstanceTask task .. | enqueueFileVerification task .. =>
      some task.row
  | _ => none

/-- What a statement does to a task row that exists. -/
def Stmt.onTask : Stmt → AgentTask → AgentTask
  | claimAgentTask selected now leaseUntil, task =>
      if task.id = selected.id then task.claim now leaseUntil else task
  | markTaskTimedOut taskId now, task =>
      if task.id = taskId ∧ task.status.isLive then task.timeOut now else task
  | recordResult selected status result now, task =>
      if task.id = selected.id ∧ selected.resultCommits then task.finish status result now else task
  | _, task => task

@[simp]
theorem onTask_id (stmt : Stmt) (task : AgentTask) : (stmt.onTask task).id = task.id := by
  cases stmt <;> simp only [Stmt.onTask] <;> split <;> rfl

@[simp]
theorem onTask_kind (stmt : Stmt) (task : AgentTask) : (stmt.onTask task).kind = task.kind := by
  cases stmt <;> simp only [Stmt.onTask] <;> split <;> rfl

@[simp]
theorem onTask_payloadJson (stmt : Stmt) (task : AgentTask) :
    (stmt.onTask task).payloadJson = task.payloadJson := by
  cases stmt <;> simp only [Stmt.onTask] <;> split <;> rfl

@[simp]
theorem onTask_nodeId (stmt : Stmt) (task : AgentTask) :
    (stmt.onTask task).nodeId = task.nodeId := by
  cases stmt <;> simp only [Stmt.onTask] <;> split <;> rfl

@[simp]
theorem onTask_entity (stmt : Stmt) (task : AgentTask) :
    (stmt.onTask task).entity = task.entity := by
  unfold AgentTask.entity
  rw [onTask_kind, onTask_payloadJson]

theorem cleanedUp_id (item : ModelFileTrash) (status : ResultStatus) (result : Json) (now : Int) :
    (item.cleanedUp status result now).id = item.id := by
  unfold ModelFileTrash.cleanedUp ModelFileTrash.failure
  split <;> rfl

theorem verified_id (file : ModelFile) (status : ResultStatus) (result : Json) (now : Int) :
    (file.verified status result now).id = file.id := rfl

theorem applyResult_id (row : ModelInstance) (kind : TaskKind) (status : ResultStatus) (result : Json)
    (now : Int) : (row.applyResult kind status result now).id = row.id := rfl

/-- What a result writes besides its task. -/
def Db.writeResult (db : Db) (task : AgentTask) (status : ResultStatus) (result : Json) (now : Int) : Db :=
  match task.entity with
  | some (.file fileId) =>
      { db with
        modelFiles := db.modelFiles.update fileId (·.verified status result now) fun file =>
          verified_id file status result now }
  | some (.trash trashId) =>
      { db with
        modelFileTrash := db.modelFileTrash.update trashId (·.cleanedUp status result now) fun item =>
          cleanedUp_id item status result now }
  | some (.instance instanceId) =>
      { db with
        modelInstances := db.modelInstances.update instanceId
          (·.applyResult task.kind status result now) fun row =>
            applyResult_id row task.kind status result now }
  | none => db

theorem resultCommits_of_entity {task : AgentTask} {entity : Entity} (h : task.entity = some entity) :
    task.resultCommits = true := by
  unfold AgentTask.entity at h
  unfold AgentTask.resultCommits
  cases hkind : task.kind <;> simp only [hkind] at h ⊢
  all_goals
    obtain ⟨id, hid, -⟩ := Option.map_eq_some_iff.mp h
    rw [hid]
    rfl

theorem applyTaskResult_eq (db : Db) (task : AgentTask) (status : ResultStatus) (result : Json)
    (now : Int) :
    applyTaskResult db task status result now
      = if task.resultCommits then .ok (db.writeResult task status result now)
        else .error (.badRequest "task payload is invalid") := by
  unfold applyTaskResult AgentTask.resultCommits Db.writeResult AgentTask.entity
  cases hkind : task.kind
  case verifyModelFile => cases task.payloadJson.getStr "model_file_id" <;> rfl
  case cleanupModelFile => cases task.payloadJson.getStr "trash_id" <;> rfl
  case startModelInstance => cases task.payloadJson.getStr "instance_id" <;> simp
  case stopModelInstance => cases task.payloadJson.getStr "instance_id" <;> simp
  case checkModelInstance => cases task.payloadJson.getStr "instance_id" <;> simp
  case testModelInstance => cases task.payloadJson.getStr "instance_id" <;> simp
  all_goals rfl

/-- The transaction of a result is undone or does both its writes. -/
theorem exec_recordResult (selected : AgentTask) (status : ResultStatus) (result : Json) (now : Int)
    (db : Db) :
    ((Stmt.recordResult selected status result now).exec db).2
      = if selected.resultCommits then
          { db with
            agentTasks := db.agentTasks.update selected.id (·.finish status result now)
              fun _ => rfl : Db }.writeResult selected status result now
        else db := by
  simp only [Stmt.exec, applyTaskResult_eq]
  cases selected.resultCommits <;> rfl

/-- Of a database that a result has written, what it writes in none of the three tables. -/
theorem writeResult_projection {β : Type} (proj : Db → β) {db : Db} {task : AgentTask}
    (hfile : ∀ fileId table, task.entity = some (.file fileId) →
      proj { db with modelFiles := table } = proj db)
    (htrash : ∀ trashId table, task.entity = some (.trash trashId) →
      proj { db with modelFileTrash := table } = proj db)
    (hinstance : ∀ instanceId table, task.entity = some (.instance instanceId) →
      proj { db with modelInstances := table } = proj db)
    (status : ResultStatus) (result : Json) (now : Int) :
    proj (db.writeResult task status result now) = proj db := by
  unfold Db.writeResult
  split
  · rename_i fileId hentity
    exact hfile fileId _ hentity
  · rename_i trashId hentity
    exact htrash trashId _ hentity
  · rename_i instanceId hentity
    exact hinstance instanceId _ hentity
  · rfl

/-- A column that neither the task of a result nor the row it names belongs to is left as it is. -/
theorem exec_recordResult_projection {β : Type} (proj : Db → β) {selected : AgentTask} {db : Db}
    (htasks : ∀ (db : Db) table, proj { db with agentTasks := table } = proj db)
    (hfile : ∀ (db : Db) fileId table, selected.entity = some (.file fileId) →
      proj { db with modelFiles := table } = proj db)
    (htrash : ∀ (db : Db) trashId table, selected.entity = some (.trash trashId) →
      proj { db with modelFileTrash := table } = proj db)
    (hinstance : ∀ (db : Db) instanceId table, selected.entity = some (.instance instanceId) →
      proj { db with modelInstances := table } = proj db)
    (status : ResultStatus) (result : Json) (now : Int) :
    proj ((Stmt.recordResult selected status result now).exec db).2 = proj db := by
  rw [exec_recordResult]
  split
  · rw [writeResult_projection proj (hfile _) (htrash _) (hinstance _)]
    exact htasks db _
  · rfl

theorem exec_recordResult_agentTasks (selected : AgentTask) (status : ResultStatus) (result : Json)
    (now : Int) (db : Db) :
    ((Stmt.recordResult selected status result now).exec db).2.agentTasks
      = if selected.resultCommits then
          db.agentTasks.update selected.id (·.finish status result now) fun _ => rfl
        else db.agentTasks := by
  rw [exec_recordResult]
  split
  · exact writeResult_projection Db.agentTasks (fun _ _ _ => rfl) (fun _ _ _ => rfl)
      (fun _ _ _ => rfl) status result now
  · rfl

theorem exec_recordResult_modelFiles (selected : AgentTask) (status : ResultStatus) (result : Json)
    (now : Int) (db : Db) :
    ((Stmt.recordResult selected status result now).exec db).2.modelFiles
      = match selected.entity with
        | some (.file fileId) =>
            db.modelFiles.update fileId (·.verified status result now) fun _ => rfl
        | _ => db.modelFiles := by
  cases hentity : selected.entity with
  | none =>
      exact exec_recordResult_projection Db.modelFiles (fun _ _ => rfl) (by simp [hentity])
        (fun _ _ _ _ => rfl) (fun _ _ _ _ => rfl) status result now
  | some entity =>
      rw [exec_recordResult, if_pos (resultCommits_of_entity hentity), Db.writeResult, hentity]
      cases entity <;> rfl

theorem exec_recordResult_modelInstances (selected : AgentTask) (status : ResultStatus)
    (result : Json) (now : Int) (db : Db) :
    ((Stmt.recordResult selected status result now).exec db).2.modelInstances
      = match selected.entity with
        | some (.instance instanceId) =>
            db.modelInstances.update instanceId (·.applyResult selected.kind status result now)
              fun _ => rfl
        | _ => db.modelInstances := by
  cases hentity : selected.entity with
  | none =>
      exact exec_recordResult_projection Db.modelInstances (fun _ _ => rfl) (fun _ _ _ _ => rfl)
        (fun _ _ _ _ => rfl) (by simp [hentity]) status result now
  | some entity =>
      rw [exec_recordResult, if_pos (resultCommits_of_entity hentity), Db.writeResult, hentity]
      cases entity <;> rfl

theorem exec_recordResult_modelFileTrash (selected : AgentTask) (status : ResultStatus)
    (result : Json) (now : Int) (db : Db) :
    ((Stmt.recordResult selected status result now).exec db).2.modelFileTrash
      = match selected.entity with
        | some (.trash trashId) =>
            db.modelFileTrash.update trashId (·.cleanedUp status result now) fun item =>
              cleanedUp_id item status result now
        | _ => db.modelFileTrash := by
  cases hentity : selected.entity with
  | none =>
      exact exec_recordResult_projection Db.modelFileTrash (fun _ _ => rfl) (fun _ _ _ _ => rfl)
        (by simp [hentity]) (fun _ _ _ _ => rfl) status result now
  | some entity =>
      rw [exec_recordResult, if_pos (resultCommits_of_entity hentity), Db.writeResult, hentity]
      cases entity <;> rfl

/-- An `INSERT` into another table, refused or not, leaves a column of the database as it is. -/
theorem insertRow_projection {κ ρ β : Type} [DecidableEq κ] {key : ρ → κ} (proj : Db → β) (db : Db)
    (allowed : Bool) (table : Table κ ρ key) (row : ρ) {commit : Table κ ρ key → Db}
    (hcommit : ∀ table', proj (commit table') = proj db) :
    proj (insertRow db allowed table row commit).2 = proj db := by
  unfold insertRow
  split
  · split
    · rfl
    · exact hcommit _
  · rfl

theorem insertRow_refused {κ ρ : Type} [DecidableEq κ] {key : ρ → κ} {db : Db} {allowed : Bool}
    {table : Table κ ρ key} {row : ρ} {commit : Table κ ρ key → Db}
    (h : (insertRow db allowed table row commit).1 = false) :
    (insertRow db allowed table row commit).2 = db := by
  unfold insertRow at h ⊢
  split
  · rename_i hallowed
    rw [if_pos hallowed] at h
    cases hrow : table.insert? row with
    | none => rfl
    | some table' => simp [hrow] at h
  · rfl

theorem insertTask_agentTasks (db : Db) (task : NewAgentTask) {commit : Db → Db}
    (hcommit : ∀ db, (commit db).agentTasks = db.agentTasks) :
    ((insertTask db task commit).1 = false ∧ (insertTask db task commit).2 = db) ∨
    ((insertTask db task commit).1 = true ∧
      db.agentTasks.insert? task.row = some (insertTask db task commit).2.agentTasks) := by
  unfold insertTask insertRow
  split
  · cases hinsert : db.agentTasks.insert? task.row with
    | none => exact .inl ⟨rfl, rfl⟩
    | some table' => exact .inr ⟨rfl, by simp [hcommit]⟩
  · exact .inl ⟨rfl, rfl⟩

theorem insertTask_stored {db : Db} {task : NewAgentTask} {commit : Db → Db}
    (hcommit : ∀ db, (commit db).agentTasks = db.agentTasks)
    (h : (insertTask db task commit).1 = true) :
    (insertTask db task commit).2.agentTasks.find? task.id = some task.row := by
  rcases insertTask_agentTasks db task hcommit with ⟨hrefused, -⟩ | ⟨-, hinsert⟩
  · rw [hrefused] at h
    exact nomatch h
  · rw [Table.find?_insert? hinsert]
    exact if_pos rfl

theorem insertTask_fresh {db : Db} {task : NewAgentTask} {commit : Db → Db}
    (hcommit : ∀ db, (commit db).agentTasks = db.agentTasks)
    (h : (insertTask db task commit).1 = true) : db.agentTasks.find? task.id = none := by
  rcases insertTask_agentTasks db task hcommit with ⟨hrefused, -⟩ | ⟨-, hinsert⟩
  · rw [hrefused] at h
    exact nomatch h
  · exact Table.insert?_fresh hinsert

/-- The tasks after a statement: the task it enqueues is added, or each row is changed on its own. -/
theorem exec_agentTasks (stmt : Stmt) (db : Db) :
    (∃ task, stmt.enqueues = some task ∧
        db.agentTasks.insert? task = some (stmt.exec db).2.agentTasks) ∨
    (∀ id, (stmt.exec db).2.agentTasks.find? id = (db.agentTasks.find? id).map stmt.onTask) := by
  have hkeep : ∀ {table : Table String AgentTask AgentTask.id}, table = db.agentTasks →
      ∀ id, table.find? id = (db.agentTasks.find? id).map fun task => task := by
    rintro table rfl id
    simp
  have hupdate : ∀ (p : AgentTask → Bool) (f g : AgentTask → AgentTask) (hf : ∀ r, (f r).id = r.id),
      (∀ task, g task = if p task then f task else task) → ∀ id,
      (db.agentTasks.updateWhere p f hf).find? id = (db.agentTasks.find? id).map g := by
    intro p f g hf hg id
    rw [Table.find?_updateWhere]
    congr 1
    funext task
    exact (hg task).symm
  have henqueue : ∀ (task : NewAgentTask) {commit : Db → Db},
      (∀ db, (commit db).agentTasks = db.agentTasks) →
      (∃ new, some task.row = some new ∧
        db.agentTasks.insert? new = some (insertTask db task commit).2.agentTasks) ∨
      ∀ id, (insertTask db task commit).2.agentTasks.find? id
        = (db.agentTasks.find? id).map fun task => task := by
    intro task commit hcommit
    rcases insertTask_agentTasks db task hcommit with ⟨-, heq⟩ | ⟨-, hinsert⟩
    · exact .inr (hkeep (congrArg Db.agentTasks heq))
    · exact .inl ⟨task.row, rfl, hinsert⟩
  cases stmt with
  | insertAgentTask task => exact henqueue task fun _ => rfl
  | enqueueInstanceTask task instanceId pendingStatus now => exact henqueue task fun _ => rfl
  | enqueueFileVerification task fileId waitMessage now => exact henqueue task fun _ => rfl
  | claimAgentTask selected now leaseUntil =>
      refine .inr (hupdate _ (·.claim now leaseUntil) _ (fun _ => rfl) fun task => ?_)
      simp [Stmt.onTask]
  | markTaskTimedOut taskId now =>
      refine .inr (hupdate _ (·.timeOut now) _ (fun _ => rfl) fun task => ?_)
      simp [Stmt.onTask]
  | recordResult selected status result now =>
      right
      intro id
      rw [exec_recordResult_agentTasks]
      cases hcommits : selected.resultCommits with
      | false =>
          have hid : (Stmt.recordResult selected status result now).onTask = fun task => task := by
            funext task
            simp [Stmt.onTask, hcommits]
          rw [hid]
          exact hkeep rfl id
      | true =>
          simp only [if_true]
          refine hupdate _ (·.finish status result now) _ (fun _ => rfl) (fun task => ?_) id
          simp [Stmt.onTask, hcommits]
  | insertModelFile file => exact .inr (hkeep (insertRow_projection Db.agentTasks _ _ _ _ fun _ => rfl))
  | insertTrash item => exact .inr (hkeep (insertRow_projection Db.agentTasks _ _ _ _ fun _ => rfl))
  | insertModelInstance row => exact .inr (hkeep (insertRow_projection Db.agentTasks _ _ _ _ fun _ => rfl))
  | insertRuntime row => exact .inr (hkeep (insertRow_projection Db.agentTasks _ _ _ _ fun _ => rfl))
  | deleteRuntime runtimeId =>
      refine .inr (hkeep ?_)
      simp only [Stmt.exec]
      split <;> rfl
  | recordHeartbeat request now =>
      refine .inr (hkeep ?_)
      simp only [Stmt.exec]
      split <;> rfl
  | _ => exact .inr (hkeep rfl)

/-- A task that exists goes on existing, as `onTask` says. -/
theorem find?_exec_of_some (stmt : Stmt) {db : Db} {id : String} {task : AgentTask}
    (htask : db.agentTasks.find? id = some task) :
    (stmt.exec db).2.agentTasks.find? id = some (stmt.onTask task) := by
  rcases exec_agentTasks stmt db with ⟨new, hnew, hinsert⟩ | heach
  · have hfresh := Table.insert?_fresh hinsert
    have hne : id ≠ new.id := by
      rintro rfl
      rw [hfresh] at htask
      exact nomatch htask
    rw [Table.find?_insert? hinsert, if_neg hne, htask]
    cases stmt with
    | insertAgentTask => rfl
    | enqueueInstanceTask => rfl
    | enqueueFileVerification => rfl
    | _ => exact nomatch hnew
  · rw [heach, htask]
    rfl

/-- A task that comes into existence is the one the statement enqueues. -/
theorem enqueues_of_find?_exec {stmt : Stmt} {db : Db} {id : String} {task : AgentTask}
    (hnone : db.agentTasks.find? id = none)
    (htask : (stmt.exec db).2.agentTasks.find? id = some task) : stmt.enqueues = some task := by
  rcases exec_agentTasks stmt db with ⟨new, hnew, hinsert⟩ | heach
  · rw [Table.find?_insert? hinsert] at htask
    by_cases hid : id = new.id
    · rw [if_pos hid] at htask
      rw [hnew, Option.some.inj htask]
    · rw [if_neg hid, hnone] at htask
      exact nomatch htask
  · rw [heach, hnone] at htask
    exact nomatch htask

/-! ### Which task verifies a file -/

/-- The same file with the same verification task, or with none. -/
def ModelFile.KeepsTask (before after : ModelFile) : Prop :=
  after.id = before.id ∧
    (after.verifyTaskId = before.verifyTaskId ∨ after.verifyTaskId = none)

theorem keepsTask_of_update {t : Table String ModelFile ModelFile.id} {id : String}
    (f : ModelFile → ModelFile) (hkeep : ∀ file : ModelFile, file.KeepsTask (f file))
    {file : ModelFile} (hfile : file ∈ (t.update id f fun before => (hkeep before).1).rows) :
    ∃ before ∈ t.rows, before.KeepsTask file := by
  obtain ⟨before, hbefore, rfl⟩ := Table.mem_updateWhere.mp hfile
  refine ⟨before, hbefore, ?_⟩
  split
  · exact hkeep before
  · exact ⟨rfl, .inl rfl⟩

/-- The transaction that enqueues the verification of a file is undone or does both its writes. -/
theorem exec_enqueueFileVerification (task : NewAgentTask) (fileId message : String) (now : Int)
    (db : Db) :
    ((Stmt.enqueueFileVerification task fileId message now).exec db).2 = db ∨
    (((Stmt.enqueueFileVerification task fileId message now).exec db).2.modelFiles
        = db.modelFiles.update fileId (·.verifyPending task.id message now) fun _ => rfl) ∧
      ((Stmt.enqueueFileVerification task fileId message now).exec db).2.agentTasks.find? task.id
        = some task.row := by
  simp only [Stmt.exec, insertTask, insertRow]
  split
  · cases hinsert : db.agentTasks.insert? task.row with
    | none => exact .inl rfl
    | some table' =>
        have hfind := Table.find?_insert? hinsert task.id
        exact .inr ⟨rfl, by simpa [NewAgentTask.row] using hfind⟩
  · exact .inl rfl

/-- A file gets a verification task only from the transaction that enqueues it, or with its row. -/
theorem modelFiles_exec (stmt : Stmt) (db : Db) {file : ModelFile}
    (hfile : file ∈ (stmt.exec db).2.modelFiles.rows) :
    (∃ before ∈ db.modelFiles.rows, before.KeepsTask file) ∨
    (∃ task message now, stmt = .enqueueFileVerification task file.id message now ∧
      file.verifyTaskId = some task.id ∧
      (stmt.exec db).2.agentTasks.find? task.id = some task.row) ∨
    stmt = .insertModelFile file := by
  have hsame : (stmt.exec db).2.modelFiles = db.modelFiles →
      ∃ before ∈ db.modelFiles.rows, before.KeepsTask file := by
    intro heq
    rw [heq] at hfile
    exact ⟨file, hfile, rfl, .inl rfl⟩
  have hinsert : ∀ {κ ρ : Type} [DecidableEq κ] {key : ρ → κ} (allowed : Bool)
      (table : Table κ ρ key) (row : ρ) {commit : Table κ ρ key → Db},
      (∀ table', (commit table').modelFiles = db.modelFiles) →
      (insertRow db allowed table row commit).2.modelFiles = db.modelFiles :=
    fun allowed table row _ hcommit => insertRow_projection Db.modelFiles db allowed table row hcommit
  cases stmt with
  | insertAgentTask task => exact .inl (hsame (hinsert _ _ _ fun _ => rfl))
  | enqueueInstanceTask task => exact .inl (hsame (hinsert _ _ _ fun _ => rfl))
  | enqueueFileVerification task fileId message now =>
      rcases exec_enqueueFileVerification task fileId message now db with heq | ⟨hfiles, htask⟩
      · exact .inl (hsame (congrArg Db.modelFiles heq))
      · rw [hfiles] at hfile
        obtain ⟨before, hbefore, hupdated⟩ := Table.mem_updateWhere.mp hfile
        by_cases hid : before.id = fileId
        · rw [if_pos (by simpa using hid)] at hupdated
          subst hupdated hid
          exact .inr (.inl ⟨task, message, now, rfl, rfl, htask⟩)
        · rw [if_neg (by simpa using hid)] at hupdated
          subst hupdated
          exact .inl ⟨file, hbefore, rfl, .inl rfl⟩
  | recordResult selected status result now =>
      refine .inl ?_
      rw [exec_recordResult_modelFiles] at hfile
      cases hentity : selected.entity with
      | none =>
          rw [hentity] at hfile
          exact ⟨file, hfile, rfl, .inl rfl⟩
      | some entity =>
          rw [hentity] at hfile
          cases entity with
          | file fileId =>
              exact keepsTask_of_update (·.verified status result now) (fun _ => ⟨rfl, .inl rfl⟩) hfile
          | «instance» id => exact ⟨file, hfile, rfl, .inl rfl⟩
          | trash id => exact ⟨file, hfile, rfl, .inl rfl⟩
  | setFileVerifying fileId now =>
      exact .inl (keepsTask_of_update (·.verifying now) (fun _ => ⟨rfl, .inl rfl⟩) hfile)
  | setFileVerifyTimeout fileId now =>
      exact .inl (keepsTask_of_update (·.verifyTimeout now) (fun _ => ⟨rfl, .inl rfl⟩) hfile)
  | expireModelFile selected now =>
      exact .inl (keepsTask_of_update (·.verifyTimeout now) (fun _ => ⟨rfl, .inl rfl⟩) hfile)
  | insertModelFile new =>
      simp only [Stmt.exec, insertRow] at hfile
      split at hfile
      · cases hinsert : db.modelFiles.insert? new with
        | none =>
            rw [hinsert] at hfile
            exact .inl ⟨file, hfile, rfl, .inl rfl⟩
        | some table' =>
            rw [hinsert] at hfile
            simp only [Table.insert?_rows hinsert, List.mem_append, List.mem_singleton] at hfile
            rcases hfile with hfile | rfl
            · exact .inl ⟨file, hfile, rfl, .inl rfl⟩
            · exact .inr (.inr rfl)
      · exact .inl ⟨file, hfile, rfl, .inl rfl⟩
  | updateModelFile fileId nodeId path verified now =>
      exact .inl (keepsTask_of_update (·.replace nodeId path verified now)
        (fun _ => ⟨rfl, .inr rfl⟩) hfile)
  | deleteModelFile fileId now =>
      exact .inl (keepsTask_of_update (·.delete now) (fun _ => ⟨rfl, .inl rfl⟩) hfile)
  | insertTrash item => exact .inl (hsame (hinsert _ _ _ fun _ => rfl))
  | insertModelInstance row => exact .inl (hsame (hinsert _ _ _ fun _ => rfl))
  | insertRuntime row => exact .inl (hsame (hinsert _ _ _ fun _ => rfl))
  | deleteRuntime runtimeId =>
      refine .inl (hsame ?_)
      simp only [Stmt.exec]
      split <;> rfl
  | recordHeartbeat request now =>
      refine .inl (hsame ?_)
      simp only [Stmt.exec]
      split <;> rfl
  | _ => exact .inl (hsame rfl)

end LightAI.Server
