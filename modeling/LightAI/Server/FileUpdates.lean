import LightAI.Base.RowRelations
import LightAI.Server.Platform
import LightAI.Server.Sweeps

/-!
# Updates of a file that end with an error

An update of a file enqueues a verification, waits for it, writes the row and reads it back. The write
finds the row by its id alone, the read leaves deleted rows out and begins with a sweep, so the update
may end with an error after its write.
-/

namespace LightAI.Server

/-- The file is where it was, and what is known of it is the same. With `expired` its status and its error
may be those of a timeout. -/
structure FileKept (expired : Prop) (file file' : ModelFile) : Prop where
  nodeId : file'.nodeId = file.nodeId
  path : file'.path = file.path
  sizeBytes : file'.sizeBytes = file.sizeBytes
  lastVerifiedAt : file'.lastVerifiedAt = file.lastVerifiedAt
  pathType : file'.pathType = file.pathType
  verifyTaskId : file'.verifyTaskId = file.verifyTaskId
  status : expired ∨ file'.status = file.status ∧ file'.lastError = file.lastError

/-- An expired task verifies the file. -/
def Db.verificationExpired (db : Db) (fileId : String) : Prop :=
  ∃ task ∈ db.agentTasks.rows, task.expired db.clock = true ∧ task.entity = some (.file fileId)

/-- The timeouts of expired tasks aside, every file is as it was. -/
def FilesUntouched (db db' : Db) : Prop :=
  Table.Rowwise (fun fileId => FileKept (db.verificationExpired fileId)) db.modelFiles db'.modelFiles

/-- The first part of an update, which enqueues the verification, touches no file. The second part, which
goes on when the wait ends, touches none if it ends with an error. -/
def UpdateAtomic (id : String) (request : ModelFileRequest) (taskId : String) (rounds : Nat)
    (before resumed : Db) : Prop :=
  FilesUntouched before (serve (beginFileUpdate request taskId) before).2 ∧
    ((∃ e, (serve (finishFileUpdate id request taskId rounds) resumed).1 = .error e) →
      FilesUntouched resumed (serve (finishFileUpdate id request taskId rounds) resumed).2)

/-- What a task that has ended says of the file that it verifies, if it has found it. -/
def AgentTask.verifiedFile (task : AgentTask) (now : Int) : Option VerifiedModelFile :=
  let result := task.resultJson.getD (.obj [])
  if task.status = .succeeded ∧ (result.getStr "file_status").getD "verified" = "verified" then
    some
      { sizeBytes := result.getI64 "size_bytes"
        pathType := (result.getStr "path_type").or (some "file")
        verifiedAt := now }
  else none

/-- Once the file is verified, its row can be read back: it is not deleted, and the sweep that comes
first goes through. Or else the row holds already what is written. -/
def ReadsBack (id : String) (request : ModelFileRequest) (taskId : String) (resumed : Db) : Prop :=
  ∀ verified file,
    (resumed.agentTasks.find? taskId).bind (·.verifiedFile resumed.clock) = some verified →
    resumed.modelFiles.find? id = some file →
    (file.deletedAt = none ∧ ExpiredNamesInstance resumed) ∨
      FileKept (resumed.verificationExpired id) file
        (file.replace request.nodeId request.path verified resumed.clock)

/-! ### What is kept -/

section Kept

variable {expired : Prop} {file file' file'' : ModelFile}

theorem FileKept.refl (expired : Prop) (file : ModelFile) : FileKept expired file file :=
  ⟨rfl, rfl, rfl, rfl, rfl, rfl, .inr ⟨rfl, rfl⟩⟩

theorem FileKept.trans (h : FileKept expired file file') (h' : FileKept expired file' file'') :
    FileKept expired file file'' where
  nodeId := h'.nodeId.trans h.nodeId
  path := h'.path.trans h.path
  sizeBytes := h'.sizeBytes.trans h.sizeBytes
  lastVerifiedAt := h'.lastVerifiedAt.trans h.lastVerifiedAt
  pathType := h'.pathType.trans h.pathType
  verifyTaskId := h'.verifyTaskId.trans h.verifyTaskId
  status := by
    rcases h.status with hexpired | ⟨hstatus, hlastError⟩
    · exact .inl hexpired
    · rcases h'.status with hexpired | ⟨hstatus', hlastError'⟩
      · exact .inl hexpired
      · exact .inr ⟨hstatus'.trans hstatus, hlastError'.trans hlastError⟩

theorem FileKept.symm (h : FileKept expired file file') : FileKept expired file' file where
  nodeId := h.nodeId.symm
  path := h.path.symm
  sizeBytes := h.sizeBytes.symm
  lastVerifiedAt := h.lastVerifiedAt.symm
  pathType := h.pathType.symm
  verifyTaskId := h.verifyTaskId.symm
  status := h.status.imp_right fun hsame => ⟨hsame.1.symm, hsame.2.symm⟩

theorem FileKept.mono {expired' : Prop} (himp : expired → expired')
    (h : FileKept expired file file') : FileKept expired' file file' :=
  { h with status := h.status.imp_left himp }

end Kept

theorem filesUntouched_of_eq {db db' : Db} (h : db'.modelFiles = db.modelFiles) :
    FilesUntouched db db' := by
  unfold FilesUntouched
  rw [h]
  exact .refl (fun _ file => .refl _ file) _

/-! ### The sweep -/

/-- What a sweep does to a file, with `expired` if it times out a verification of it. -/
def FileSwept (expired : Prop) (file file' : ModelFile) : Prop :=
  FileKept expired file file' ∧ file'.deletedAt = file.deletedAt

theorem FileSwept.refl (expired : Prop) (file : ModelFile) : FileSwept expired file file :=
  ⟨.refl expired file, rfl⟩

/-- Of the writes of a sweep, those to other tables. -/
def otherSweepWrites : List Write := [.markTaskTimedOut, .updateTrashFailure, .updateInstanceCheck]

theorem files_exec_of_other {stmt : Stmt} (h : stmt.Among otherSweepWrites) (db : Db) :
    (stmt.exec db).2.modelFiles = db.modelFiles := by
  cases stmt with
  | select query => rfl
  | markTaskTimedOut taskId now => rfl
  | updateTrashFailure trashId status message now => rfl
  | updateInstanceCheck instanceId status error now => rfl
  | _ => exact absurd (h _ rfl) (by decide)

theorem Uses.modelFiles_eq {α : Type} {h : Handler α} (huses : Uses otherSweepWrites h) (db : Db) :
    (serve h db).2.modelFiles = db.modelFiles :=
  (Program.Performs.run_rel (R := fun db db' => db.modelFiles = db'.modelFiles) (fun _ => rfl)
    (fun _ _ _ => Eq.trans) (fun _ db hamong => (files_exec_of_other hamong db).symm) huses db).symm

theorem applyTimeout_files (task : AgentTask) (now : Int) (db : Db) :
    Table.Rowwise (fun fileId => FileSwept (task.entity = some (.file fileId))) db.modelFiles
      (serve (applyTimeout task now) db).2.modelFiles := by
  have hother : Uses otherSweepWrites (applyTimeout task now) →
      Table.Rowwise (fun fileId => FileSwept (task.entity = some (.file fileId))) db.modelFiles
        (serve (applyTimeout task now) db).2.modelFiles := by
    intro huses
    rw [huses.modelFiles_eq db]
    exact .refl (fun _ file => .refl _ file) _
  by_cases hkind : task.kind = .verifyModelFile
  · cases hfile : task.payloadJson.getStr "model_file_id" with
    | none =>
        apply hother
        simp only [applyTimeout, hkind, hfile]
        exact uses_pure ()
    | some fileId =>
        have hentity : task.entity = some (.file fileId) := by
          simp [AgentTask.entity, hkind, hfile]
        have hserve : (serve (applyTimeout task now) db).2.modelFiles
            = db.modelFiles.update fileId (·.verifyTimeout now) fun _ => rfl := by
          simp only [applyTimeout, hkind, hfile]
          rfl
        rw [hserve]
        refine Table.rowwise_update _ (fun _ file => .refl _ file) fun file _ => ⟨?_, rfl⟩
        exact ⟨rfl, rfl, rfl, rfl, rfl, rfl, .inl hentity⟩
  · apply hother
    unfold applyTimeout
    split
    · rename_i h
      exact absurd h hkind
    · cases task.payloadJson.getStr "trash_id" with
      | none => exact uses_pure ()
      | some trashId => exact uses_updateTrashFailure (by decide) trashId _ _
    all_goals first
      | exact uses_pure ()
      | cases task.payloadJson.getStr "instance_id" with
        | none => exact uses_pure ()
        | some instanceId =>
            exact uses_bind (uses_updateInstanceCheck (by decide) instanceId _ _) fun _ => uses_pure ()

theorem timeOutTasks_files (now : Int) (tasks : List AgentTask) (db : Db) :
    Table.Rowwise (fun fileId => FileSwept (∃ task ∈ tasks, task.entity = some (.file fileId)))
      db.modelFiles (serve (timeOutTasks now tasks) db).2.modelFiles := by
  induction tasks generalizing db with
  | nil => exact .refl (fun _ file => .refl _ file) _
  | cons task tasks ih =>
      have hmark : serve (markTaskTimedOut task.id) db
          = (.ok (), ((Stmt.markTaskTimedOut task.id db.clock).exec db).2) := rfl
      have hfirst := applyTimeout_files task now ((Stmt.markTaskTimedOut task.id db.clock).exec db).2
      have hfirst' : Table.Rowwise
          (fun fileId => FileSwept (∃ task' ∈ task :: tasks, task'.entity = some (.file fileId)))
          db.modelFiles (serve (applyTimeout task now)
            ((Stmt.markTaskTimedOut task.id db.clock).exec db).2).2.modelFiles := by
        refine hfirst.mono fun fileId file file' h => ⟨h.1.mono ?_, h.2⟩
        intro hentity
        exact ⟨task, List.mem_cons_self, hentity⟩
      unfold timeOutTasks
      rw [serve_bind_ok hmark]
      cases hserve : serve (applyTimeout task now)
          ((Stmt.markTaskTimedOut task.id db.clock).exec db).2 with
      | mk outcome db' =>
          rw [hserve] at hfirst'
          cases outcome with
          | error e =>
              rw [serve_bind_error hserve]
              exact hfirst'
          | ok u =>
              rw [serve_bind_ok hserve]
              refine hfirst'.trans ?_ (ih db')
              intro fileId file file' file'' h h'
              refine ⟨h.1.trans (h'.1.mono ?_), h'.2.trans h.2⟩
              rintro ⟨task', hmem, hentity⟩
              exact ⟨task', List.mem_cons_of_mem _ hmem, hentity⟩

theorem sweep_files (db : Db) :
    Table.Rowwise (fun fileId => FileSwept (db.verificationExpired fileId)) db.modelFiles
      (serve markTimedOutTasks db).2.modelFiles := by
  refine (timeOutTasks_files db.clock (db.agentTasks.rows.filter (·.expired db.clock)) db).mono ?_
  intro fileId file file' h
  refine ⟨h.1.mono ?_, h.2⟩
  rintro ⟨task, hmem, hentity⟩
  obtain ⟨hstored, hexpired⟩ := List.mem_filter.mp hmem
  exact ⟨task, hstored, hexpired, hentity⟩

/-! ### Reading a file back -/

/-- A read that ends with an error does no more than its sweep. -/
theorem serve_modelFile_error {id : String} {db : Db} {e : DomainError}
    (h : (serve (modelFile id) db).1 = .error e) :
    (serve (modelFile id) db).2 = (serve markTimedOutTasks db).2 := by
  cases hsweep : serve markTimedOutTasks db with
  | mk outcome db' =>
      cases outcome with
      | error e' =>
          have hrows : serve (modelFileRows none (some id)) db = (.error e', db') := by
            unfold modelFileRows
            exact serve_bind_error hsweep _
          unfold modelFile
          rw [serve_bind_error hrows]
      | ok u =>
          rcases serve_modelFile_of_sweep hsweep id with ⟨-, hserve⟩ | ⟨-, view, hok⟩
          · rw [hserve]
          · rw [hok] at h
            cases h

/-- A stored file is read without an error exactly if it is not deleted and the sweep goes through. -/
theorem serve_modelFile_fails_iff {id : String} {db : Db} {file : ModelFile}
    (hfile : db.modelFiles.find? id = some file) :
    (∃ e, (serve (modelFile id) db).1 = .error e) ↔
      ¬ (file.deletedAt = none ∧ ExpiredNamesInstance db) := by
  constructor
  · rintro ⟨e, herror⟩ ⟨hlive, hnames⟩
    obtain ⟨view, hok⟩ := serve_modelFile hnames hfile hlive
    rw [hok] at herror
    cases herror
  · intro hnot
    cases hsweep : serve markTimedOutTasks db with
    | mk outcome db' =>
        cases outcome with
        | error e =>
            have hrows : serve (modelFileRows none (some id)) db = (.error e, db') := by
              unfold modelFileRows
              exact serve_bind_error hsweep _
            unfold modelFile
            rw [serve_bind_error hrows]
            exact ⟨e, rfl⟩
        | ok u =>
            have hnames : ExpiredNamesInstance db := by
              rw [← sweep_succeeds_iff, hsweep]
            have hdeleted : file.deletedAt ≠ none := fun hlive => hnot ⟨hlive, hnames⟩
            have hswept := sweep_files db
            rw [hsweep] at hswept
            obtain ⟨file', hfile', -, hdeleted'⟩ := hswept.find hfile
            have hnone : db'.readRows id = [] := by
              rw [readRows_eq_nil_iff]
              intro row hrow
              rw [hfile'] at hrow
              rw [← Option.some.inj hrow, hdeleted']
              exact hdeleted
            rcases serve_modelFile_of_sweep hsweep id with ⟨-, hserve⟩ | ⟨hsome, -⟩
            · rw [hserve]
              exact ⟨_, rfl⟩
            · exact absurd hnone hsome

/-! ### The two parts of an update -/

theorem uses_beginFileUpdate (request : ModelFileRequest) (taskId : String) :
    Uses [.insertAgentTask] (beginFileUpdate request taskId) := by
  unfold beginFileUpdate
  apply uses_bind (uses_checked _)
  intro _
  apply uses_bind (uses_checked _)
  intro _
  apply uses_bind (uses_ensureNodeExists _)
  intro _
  unfold enqueueVerification
  apply uses_bind (uses_nodeOnline _)
  intro online
  apply uses_bind (uses_rejectIf _ _)
  intro _
  apply uses_bind uses_nowUnixSecs
  intro now
  apply uses_bind (uses_execute rfl (by decide))
  intro accepted
  exact uses_inserted accepted

theorem beginFileUpdate_untouched (request : ModelFileRequest) (taskId : String) (db : Db) :
    FilesUntouched db (serve (beginFileUpdate request taskId) db).2 := by
  apply filesUntouched_of_eq
  have hexec : ∀ (stmt : Stmt) db, stmt.Among [.insertAgentTask] →
      db.modelFiles = (stmt.exec db).2.modelFiles := by
    intro stmt db hamong
    cases stmt with
    | select q => rfl
    | insertAgentTask task =>
        change db.modelFiles = (insertTask db task id).2.modelFiles
        unfold insertTask insertRow
        split
        · split <;> rfl
        · rfl
    | _ => exact absurd (hamong _ rfl) (by decide)
  exact (Program.Performs.run_rel (R := fun db db' => db.modelFiles = db'.modelFiles) (fun _ => rfl)
    (fun _ _ _ => Eq.trans) hexec (uses_beginFileUpdate request taskId) db).symm

/-- What has become of the verification, in one look at its task. -/
theorem serve_waitForVerification (taskId : String) (rounds : Nat) (db : Db) :
    (∃ verified, (db.agentTasks.find? taskId).bind (·.verifiedFile db.clock) = some verified ∧
        serve (waitForModelFileVerification taskId rounds) db = (.ok verified, db)) ∨
      (db.agentTasks.find? taskId).bind (·.verifiedFile db.clock) = none ∧
        ∃ e db', serve (waitForModelFileVerification taskId rounds) db = (.error e, db') ∧
          db'.modelFiles = db.modelFiles := by
  unfold waitForModelFileVerification
  cases htask : db.agentTasks.find? taskId with
  | none => exact .inr ⟨rfl, _, db, serve_waitForTask_of_none htask rounds, rfl⟩
  | some task =>
      rw [serve_waitForTask htask rounds, Option.bind_some]
      unfold verificationEnded AgentTask.verifiedFile
      cases hstatus : task.status with
      | succeeded =>
          by_cases hverified :
              ((task.resultJson.getD (.obj [])).getStr "file_status").getD "verified" = "verified"
          · simp only [hverified, ne_eq, not_true_eq_false, if_false, and_self, if_true]
            exact .inl ⟨_, rfl, rfl⟩
          · simp only [hverified, ne_eq, not_false_eq_true, if_true, and_false, if_false]
            exact .inr ⟨trivial, _, db, rfl, rfl⟩
      | failed => exact .inr ⟨if_neg (by simp), _, db, rfl, rfl⟩
      | timedOut => exact .inr ⟨if_neg (by simp), _, db, rfl, rfl⟩
      | queued => exact .inr ⟨if_neg (by simp), _, _, rfl, rfl⟩
      | running => exact .inr ⟨if_neg (by simp), _, _, rfl, rfl⟩

/-- The database after the write of an update. -/
def Db.written (db : Db) (id : String) (request : ModelFileRequest) (verified : VerifiedModelFile) : Db :=
  ((Stmt.updateModelFile id request.nodeId request.path verified db.clock).exec db).2

theorem written_untouched {id : String} {request : ModelFileRequest} {verified : VerifiedModelFile}
    {db : Db} (hrow : ∀ file, db.modelFiles.find? id = some file → FileKept (db.verificationExpired id)
      file (file.replace request.nodeId request.path verified db.clock)) :
    FilesUntouched db (db.written id request verified) :=
  Table.rowwise_update (R := fun fileId => FileKept (db.verificationExpired fileId)) (t := db.modelFiles)
    (f := fun file : ModelFile => file.replace request.nodeId request.path verified db.clock)
    (fun _ => rfl) (fun _ file => .refl _ file) hrow

/-- The second part of an update: it ends before its write, or finds no row, or writes the row and reads
it back. -/
theorem serve_finishFileUpdate (id : String) (request : ModelFileRequest) (taskId : String)
    (rounds : Nat) (db : Db) :
    FilesUntouched db (serve (finishFileUpdate id request taskId rounds) db).2 ∧
        (∀ verified file,
          (db.agentTasks.find? taskId).bind (·.verifiedFile db.clock) = some verified →
          db.modelFiles.find? id ≠ some file) ∨
      ∃ verified file,
        (db.agentTasks.find? taskId).bind (·.verifiedFile db.clock) = some verified ∧
        db.modelFiles.find? id = some file ∧
        serve (finishFileUpdate id request taskId rounds) db = serve (modelFile id)
          (db.written id request verified) := by
  unfold finishFileUpdate
  rcases serve_waitForVerification taskId rounds db with
    ⟨verified, hverified, hwait⟩ | ⟨hnone, e, db', hwait, hfiles⟩
  · rw [serve_bind_ok hwait, serve_bind_ok (serve_nowUnixSecs db)]
    have hwrite : serve (execute (.updateModelFile id request.nodeId request.path verified db.clock) :
        Handler Bool) db = (.ok (db.modelFiles.find? id).isSome,
          ((Stmt.updateModelFile id request.nodeId request.path verified db.clock).exec db).2) := rfl
    rw [hverified]
    cases hfile : db.modelFiles.find? id with
    | some file =>
        rw [hfile] at hwrite
        exact .inr ⟨verified, file, rfl, rfl, (serve_bind_ok hwrite _).trans rfl⟩
    | none =>
        rw [hfile] at hwrite
        have hserve : serve (do
            let found : Bool ← execute (.updateModelFile id request.nodeId request.path verified db.clock)
            if found then modelFile id else throw (.notFound "model file not found")) db
              = (.error (.notFound "model file not found"),
                ((Stmt.updateModelFile id request.nodeId request.path verified db.clock).exec db).2) :=
          (serve_bind_ok hwrite _).trans rfl
        refine .inl ⟨?_, fun _ _ _ h => by cases h⟩
        refine (congrArg (fun served => FilesUntouched db served.2) hserve).mpr ?_
        refine written_untouched fun file hsome => ?_
        rw [hfile] at hsome
        cases hsome
  · rw [serve_bind_error hwait, hnone]
    exact .inl ⟨filesUntouched_of_eq hfiles, fun _ _ h => by cases h⟩

/-! ### When an update is atomic -/

section Written

variable {id taskId : String} {request : ModelFileRequest} {rounds : Nat} {db : Db}
  {verified : VerifiedModelFile} {file : ModelFile}

theorem find?_written (hfile : db.modelFiles.find? id = some file) :
    (db.written id request verified).modelFiles.find? id
      = some (file.replace request.nodeId request.path verified db.clock) := by
  have hfind := Table.find?_update_self db.modelFiles id
    (·.replace request.nodeId request.path verified db.clock) fun _ => rfl
  rw [hfile] at hfind
  exact hfind

/-- After its write an update that ends with an error leaves the row as written, but for timeouts. -/
theorem written_row_kept {e : DomainError} (hfile : db.modelFiles.find? id = some file)
    (herror : (serve (modelFile id) (db.written id request verified)).1 = .error e) :
    ∃ file', (serve (modelFile id) (db.written id request verified)).2.modelFiles.find? id = some file' ∧
      FileKept (db.verificationExpired id)
        (file.replace request.nodeId request.path verified db.clock) file' := by
  rw [serve_modelFile_error herror]
  obtain ⟨file', hfile', hkept, -⟩ :=
    (sweep_files (db.written id request verified)).find (find?_written hfile)
  exact ⟨file', hfile', hkept⟩

theorem untouched_after_write {e : DomainError}
    (hfile : db.modelFiles.find? id = some file)
    (herror : (serve (modelFile id) (db.written id request verified)).1 = .error e) :
    FilesUntouched db (serve (modelFile id) (db.written id request verified)).2 ↔
      FileKept (db.verificationExpired id) file
        (file.replace request.nodeId request.path verified db.clock) := by
  constructor
  · intro huntouched
    obtain ⟨file', hfile', hwritten⟩ := written_row_kept hfile herror
    obtain ⟨after, hafter, hkept⟩ := huntouched.find hfile
    obtain rfl := Option.some.inj (hfile'.symm.trans hafter)
    exact hkept.trans hwritten.symm
  · intro hkept
    have hwrite : FilesUntouched db (db.written id request verified) := by
      refine written_untouched fun stored hstored => ?_
      rw [hfile] at hstored
      rw [← Option.some.inj hstored]
      exact hkept
    rw [serve_modelFile_error herror]
    refine hwrite.trans ?_ (sweep_files (db.written id request verified))
    intro fileId first second third h h'
    exact h.trans h'.1

end Written

/-- An update that ends with an error has left every file as it was, exactly if what it would have written
could be read back. -/
theorem update_atomic_iff (id : String) (request : ModelFileRequest) (taskId : String) (rounds : Nat)
    (before resumed : Db) :
    UpdateAtomic id request taskId rounds before resumed ↔ ReadsBack id request taskId resumed := by
  unfold UpdateAtomic
  rw [and_iff_right (beginFileUpdate_untouched request taskId before)]
  rcases serve_finishFileUpdate id request taskId rounds resumed with
    ⟨huntouched, hnone⟩ | ⟨verified, file, hverified, hfile, hserve⟩
  · refine iff_of_true (fun _ => huntouched) ?_
    intro verified file hverified hfile
    exact absurd hfile (hnone verified file hverified)
  · have hwritten : (resumed.written id request verified).modelFiles.find? id
        = some (file.replace request.nodeId request.path verified resumed.clock) := find?_written hfile
    have hfails := serve_modelFile_fails_iff hwritten
    have hreads : ReadsBack id request taskId resumed ↔
        (file.deletedAt = none ∧ ExpiredNamesInstance resumed) ∨
          FileKept (resumed.verificationExpired id) file
            (file.replace request.nodeId request.path verified resumed.clock) := by
      constructor
      · intro h
        exact h verified file hverified hfile
      · intro h verified' file' hverified' hfile'
        obtain rfl := Option.some.inj (hverified.symm.trans hverified')
        obtain rfl := Option.some.inj (hfile.symm.trans hfile')
        exact h
    rw [hreads, hserve]
    constructor
    · intro hatomic
      by_cases hback : file.deletedAt = none ∧ ExpiredNamesInstance resumed
      · exact .inl hback
      · obtain ⟨e, herror⟩ := hfails.mpr hback
        exact .inr ((untouched_after_write hfile herror).mp (hatomic ⟨e, herror⟩))
    · rintro (hback | hkept) ⟨e, herror⟩
      · exact absurd hback (hfails.mp ⟨e, herror⟩)
      · exact (untouched_after_write hfile herror).mpr hkept

/-! ### An update of a deleted file -/

def deletedFile : ModelFile where
  id := "f"
  modelId := "m"
  nodeId := "n"
  path := "/models/old"
  status := "verify_failed"
  deletedAt := some 900
  createdAt := 0
  updatedAt := 900

/-- The file was deleted before its update was sent, and its new path has been found. -/
def deletedFileDb : Db :=
  { clock := 1000
    nodes := oneNode
    agentTasks :=
      ⟨[{ id := "t", nodeId := "n", kind := .verifyModelFile, status := .succeeded
          payloadJson := .obj [("path", .str "/models/new")], resultJson := some (.obj [])
          createdAt := 990, updatedAt := 1000 }], by decide⟩
    modelFiles := ⟨[deletedFile], by decide⟩ }

theorem deleted_file_rewritten :
    ¬ UpdateAtomic "f" { nodeId := "n", path := "/models/new" } "t" 0
      { deletedFileDb with agentTasks := .empty } deletedFileDb := by
  rintro ⟨-, hatomic⟩
  let verified : VerifiedModelFile :=
    { sizeBytes := none, pathType := some "file", verifiedAt := 1000 }
  have hfile : deletedFileDb.modelFiles.find? "f" = some deletedFile := rfl
  have hserve : serve (finishFileUpdate "f" { nodeId := "n", path := "/models/new" } "t" 0) deletedFileDb
      = serve (modelFile "f")
        (deletedFileDb.written "f" { nodeId := "n", path := "/models/new" } verified) := rfl
  rw [hserve] at hatomic
  have hdeleted : ¬ (deletedFile.deletedAt = none ∧ ExpiredNamesInstance
      (deletedFileDb.written "f" { nodeId := "n", path := "/models/new" } verified)) := by
    rintro ⟨hlive, -⟩
    cases hlive
  obtain ⟨e, herror⟩ := (serve_modelFile_fails_iff (find?_written hfile)).mpr hdeleted
  have hkept := (untouched_after_write hfile herror).mp (hatomic ⟨e, herror⟩)
  exact absurd hkept.path (by decide)

end LightAI.Server
