import LightAI.Base.RowRelations
import LightAI.Server.Effects

/-!
# What a statement does to the model files

A file that is stored after a statement has just been inserted, or it comes of the stored file of its id
by one of the writes below. No statement removes a row: a deletion only marks it.
-/

namespace LightAI.Server

/-- The writes on a stored file, one constructor for each statement that makes one. -/
inductive Stmt.RewritesFile : Stmt → ModelFile → ModelFile → Prop
  | kept (stmt : Stmt) (file : ModelFile) : RewritesFile stmt file file
  | verifyPending (task : NewAgentTask) (message : String) (now : Int) (file : ModelFile) :
      RewritesFile (.enqueueFileVerification task file.id message now) file
        (file.verifyPending task.id message now)
  | verifying (now : Int) (file : ModelFile) :
      RewritesFile (.setFileVerifying file.id now) file (file.verifying now)
  | verifyTimeout (now : Int) (file : ModelFile) :
      RewritesFile (.setFileVerifyTimeout file.id now) file (file.verifyTimeout now)
  | expire (selected : ModelFile) (now : Int) (file : ModelFile) (hid : selected.id = file.id) :
      RewritesFile (.expireModelFile selected now) file (file.verifyTimeout now)
  | replace (nodeId path : String) (verified : VerifiedModelFile) (now : Int) (file : ModelFile) :
      RewritesFile (.updateModelFile file.id nodeId path verified now) file
        (file.replace nodeId path verified now)
  | delete (now : Int) (file : ModelFile) :
      RewritesFile (.deleteModelFile file.id now) file (file.delete now)
  | result (selected : AgentTask) (status : ResultStatus) (result : Json) (now : Int)
      (file : ModelFile) (hnames : selected.entity = some (.file file.id)) :
      RewritesFile (.recordResult selected status result now) file (file.verified status result now)

/-- Each file is rewritten, and none appears or goes. -/
abbrev RewritesFiles (stmt : Stmt) (db db' : Db) : Prop :=
  Table.Rowwise (fun _ => stmt.RewritesFile) db.modelFiles db'.modelFiles

theorem rewritesFiles_of_eq {stmt : Stmt} {db db' : Db} (h : db'.modelFiles = db.modelFiles) :
    RewritesFiles stmt db db' := by
  unfold RewritesFiles
  rw [h]
  exact .refl (fun _ file => .kept stmt file) _

/-- An update by key rewrites the file of that key. -/
theorem rewritesFiles_of_update {stmt : Stmt} {db db' : Db} {fileId : String} {f : ModelFile → ModelFile}
    (hf : ∀ file, (f file).id = file.id) (h : db'.modelFiles = db.modelFiles.update fileId f hf)
    (hstmt : ∀ file, file.id = fileId → stmt.RewritesFile file (f file)) :
    RewritesFiles stmt db db' := by
  unfold RewritesFiles
  rw [h]
  refine Table.rowwise_update hf (fun _ file => .kept stmt file) fun file hfile => ?_
  exact hstmt file (Table.find?_key hfile)

/-- The files after a statement: the file it inserts is added, or each file is rewritten. -/
theorem fileRows_exec (stmt : Stmt) (db : Db) :
    (∃ file, stmt = .insertModelFile file ∧
        db.modelFiles.insert? file = some (stmt.exec db).2.modelFiles) ∨
      RewritesFiles stmt db (stmt.exec db).2 := by
  have hinsert : ∀ {κ ρ : Type} [DecidableEq κ] {key : ρ → κ} (allowed : Bool)
      (table : Table κ ρ key) (row : ρ) {commit : Table κ ρ key → Db},
      (∀ table', (commit table').modelFiles = db.modelFiles) →
      RewritesFiles stmt db (insertRow db allowed table row commit).2 :=
    fun allowed table row _ hcommit => rewritesFiles_of_eq
      (insertRow_projection Db.modelFiles db allowed table row hcommit)
  cases stmt with
  | insertAgentTask task => exact .inr (hinsert _ _ _ fun _ => rfl)
  | enqueueInstanceTask task => exact .inr (hinsert _ _ _ fun _ => rfl)
  | enqueueFileVerification task fileId message now =>
      rcases exec_enqueueFileVerification task fileId message now db with heq | ⟨hfiles, -⟩
      · exact .inr (rewritesFiles_of_eq (congrArg Db.modelFiles heq))
      · refine .inr (rewritesFiles_of_update (f := (·.verifyPending task.id message now))
          (fun _ => rfl) hfiles ?_)
        rintro file rfl
        exact .verifyPending task message now file
  | recordResult selected status result now =>
      right
      have hfiles := exec_recordResult_modelFiles selected status result now db
      cases hentity : selected.entity with
      | none =>
          rw [hentity] at hfiles
          exact rewritesFiles_of_eq hfiles
      | some entity =>
          rw [hentity] at hfiles
          cases entity with
          | file fileId =>
              refine rewritesFiles_of_update (f := (·.verified status result now)) (fun _ => rfl)
                hfiles ?_
              rintro file rfl
              exact .result selected status result now file hentity
          | «instance» id => exact rewritesFiles_of_eq hfiles
          | trash id => exact rewritesFiles_of_eq hfiles
  | setFileVerifying fileId now =>
      refine .inr (rewritesFiles_of_update (f := (·.verifying now)) (fun _ => rfl) rfl ?_)
      rintro file rfl
      exact .verifying now file
  | setFileVerifyTimeout fileId now =>
      refine .inr (rewritesFiles_of_update (f := (·.verifyTimeout now)) (fun _ => rfl) rfl ?_)
      rintro file rfl
      exact .verifyTimeout now file
  | expireModelFile selected now =>
      refine .inr (rewritesFiles_of_update (f := (·.verifyTimeout now)) (fun _ => rfl) rfl ?_)
      intro file hid
      exact .expire selected now file hid.symm
  | insertModelFile file =>
      simp only [Stmt.exec, insertRow]
      split
      · cases hresult : db.modelFiles.insert? file with
        | none => exact .inr (rewritesFiles_of_eq rfl)
        | some table' => exact .inl ⟨file, rfl, hresult⟩
      · exact .inr (rewritesFiles_of_eq rfl)
  | updateModelFile fileId nodeId path verified now =>
      refine .inr (rewritesFiles_of_update (f := (·.replace nodeId path verified now)) (fun _ => rfl)
        rfl ?_)
      rintro file rfl
      exact .replace nodeId path verified now file
  | deleteModelFile fileId now =>
      refine .inr (rewritesFiles_of_update (f := (·.delete now)) (fun _ => rfl) rfl ?_)
      rintro file rfl
      exact .delete now file
  | insertTrash item => exact .inr (hinsert _ _ _ fun _ => rfl)
  | insertModelInstance row => exact .inr (hinsert _ _ _ fun _ => rfl)
  | insertRuntime row => exact .inr (hinsert _ _ _ fun _ => rfl)
  | deleteRuntime runtimeId =>
      refine .inr (rewritesFiles_of_eq ?_)
      simp only [Stmt.exec]
      split <;> rfl
  | recordHeartbeat request now =>
      refine .inr (rewritesFiles_of_eq ?_)
      simp only [Stmt.exec]
      split <;> rfl
  | _ => exact .inr (rewritesFiles_of_eq rfl)

/-- A file that is stored after a statement has been inserted by it or comes of the file of its id. -/
theorem find?_file_exec {stmt : Stmt} {db : Db} {id : String} {file' : ModelFile}
    (hfile' : (stmt.exec db).2.modelFiles.find? id = some file') :
    stmt = .insertModelFile file' ∨
      ∃ file, db.modelFiles.find? id = some file ∧ stmt.RewritesFile file file' := by
  rcases fileRows_exec stmt db with ⟨file, hstmt, hinserted⟩ | hrewritten
  · rw [Table.find?_insert? hinserted] at hfile'
    by_cases hid : id = file.id
    · rw [if_pos hid] at hfile'
      left
      rw [hstmt, Option.some.inj hfile']
    · rw [if_neg hid] at hfile'
      exact .inr ⟨file', hfile', .kept stmt file'⟩
  · exact .inr (hrewritten.find_back hfile')

/-- A stored file stays stored. -/
theorem find?_file_exec_of_some (stmt : Stmt) {db : Db} {id : String} {file : ModelFile}
    (hfile : db.modelFiles.find? id = some file) :
    ∃ file', (stmt.exec db).2.modelFiles.find? id = some file' ∧ stmt.RewritesFile file file' := by
  rcases fileRows_exec stmt db with ⟨new, -, hinserted⟩ | hrewritten
  · have hfresh := Table.insert?_fresh hinserted
    have hne : id ≠ new.id := by
      rintro rfl
      rw [hfresh] at hfile
      cases hfile
    rw [Table.find?_insert? hinserted, if_neg hne]
    exact ⟨file, hfile, .kept stmt file⟩
  · exact hrewritten.find hfile

/-! ### What no statement changes -/

section Rewritten

variable {stmt : Stmt} {file file' : ModelFile}

theorem Stmt.RewritesFile.modelId (h : stmt.RewritesFile file file') : file'.modelId = file.modelId := by
  cases h <;> rfl

/-- A deleted file stays deleted. -/
theorem Stmt.RewritesFile.live (h : stmt.RewritesFile file file') (hlive : file'.deletedAt = none) :
    file.deletedAt = none := by
  cases h with
  | delete now => cases hlive
  | _ => exact hlive

/-- A file moves only by an update. -/
theorem Stmt.RewritesFile.moves (h : stmt.RewritesFile file file') :
    (file'.nodeId = file.nodeId ∧ file'.path = file.path) ∨
      ∃ verified now, stmt = .updateModelFile file.id file'.nodeId file'.path verified now := by
  cases h with
  | replace nodeId path verified now => exact .inr ⟨verified, now, rfl⟩
  | _ => exact .inl ⟨rfl, rfl⟩

end Rewritten

end LightAI.Server
