import LightAI.Server.Interference
import LightAI.Server.SweepingRequests

/-!
# What a timeout writes besides its task

The sweep and the waiting requests time a task out in one statement and put the row that its payload
names into the state of a timeout in another. Whatever the requests do in between, the second statement
names the row of the task that the first one has named: no request changes what a task's payload names,
and a file's verification task is one for that file.
-/

namespace LightAI.Server

open Interleaving

/-- The task that a request has timed out last. -/
def timeoutCause : List Stmt → Option String
  | [] => none
  | .markTaskTimedOut taskId _ :: _ => some taskId
  | _ :: done => timeoutCause done

/-- The row that a statement puts into the state of a timeout, if it follows a timeout. -/
def Stmt.timeoutTarget : Stmt → Option Entity
  | setFileVerifyTimeout fileId _ => some (.file fileId)
  | updateTrashFailure trashId .cleanupTimeout _ _ => some (.trash trashId)
  | updateInstanceCheck instanceId "failed" _ _ => some (.instance instanceId)
  | _ => none

/-- The task for whose timeout a statement writes a row, and the row: `model_file_rows` names the task
by the row it has selected, the others write for the task they have just timed out. -/
def timeoutEffect (done : List Stmt) : Stmt → Option (String × Entity)
  | .expireModelFile selected _ => selected.verifyTaskId.map fun id => (id, .file selected.id)
  | stmt =>
      match timeoutCause done, stmt.timeoutTarget with
      | some id, some entity => some (id, entity)
      | _, _ => none

/-- The task is stored, and its payload names `entity`. -/
def TaskNames (db : Db) (id : String) (entity : Option Entity) : Prop :=
  ∃ task, db.agentTasks.find? id = some task ∧ task.entity = entity

/-- The verification task of a file is one for that file. -/
def VerifyTasksMatch (db : Db) : Prop :=
  ∀ file ∈ db.modelFiles.rows, ∀ id, file.verifyTaskId = some id →
    TaskNames db id (some (.file file.id))

/-- What a request may rely on between two of its statements. -/
def TimeoutRely (db db' : Db) : Prop :=
  (VerifyTasksMatch db → VerifyTasksMatch db') ∧
    ∀ id entity, TaskNames db id entity → TaskNames db' id entity

/-- The rows that a statement names belong together. -/
def NamesMatch (done : List Stmt) (db : Db) (stmt : Stmt) : Prop :=
  (∀ id entity, timeoutEffect done stmt = some (id, entity) → TaskNames db id (some entity)) ∧
    match stmt with
    | .enqueueFileVerification task fileId _ _ => task.row.entity = some (.file fileId)
    | .insertModelFile file => file.verifyTaskId = none
    | .recordResult selected _ _ _ => TaskNames db selected.id selected.entity
    | _ => True

theorem timeoutRely_refl (db : Db) : TimeoutRely db db := ⟨id, fun _ _ => id⟩

theorem timeoutRely_trans {db db' db'' : Db} (h : TimeoutRely db db') (h' : TimeoutRely db' db'') :
    TimeoutRely db db'' :=
  ⟨h'.1 ∘ h.1, fun id entity hnames => h'.2 id entity (h.2 id entity hnames)⟩

theorem taskNames_exec (stmt : Stmt) {db : Db} {id : String} {entity : Option Entity}
    (h : TaskNames db id entity) : TaskNames (stmt.exec db).2 id entity := by
  obtain ⟨task, htask, hentity⟩ := h
  refine ⟨_, find?_exec_of_some stmt htask, ?_⟩
  rw [onTask_entity, hentity]

theorem verifyTasksMatch_exec {done : List Stmt} {stmt : Stmt} {db : Db}
    (hpre : NamesMatch done db stmt) (h : VerifyTasksMatch db) :
    VerifyTasksMatch (stmt.exec db).2 := by
  intro file hfile id hid
  rcases modelFiles_exec stmt db hfile with
    ⟨before, hbefore, hsame, htask | hnone⟩ | ⟨task, message, now, rfl, htask, hstored⟩ | rfl
  · rw [hsame]
    exact taskNames_exec stmt (h before hbefore id (htask ▸ hid))
  · rw [hnone] at hid
    exact nomatch hid
  · obtain rfl : task.id = id := Option.some.inj (htask.symm.trans hid)
    exact ⟨_, hstored, hpre.2⟩
  · have hnone : file.verifyTaskId = none := hpre.2
    rw [hnone] at hid
    exact nomatch hid

theorem timeoutRely_exec {done : List Stmt} {stmt : Stmt} {db : Db}
    (hpre : NamesMatch done db stmt) : TimeoutRely db (stmt.exec db).2 :=
  ⟨verifyTasksMatch_exec hpre, fun _ _ => taskNames_exec stmt⟩

theorem timeoutRely_act (action : Environment) (db : Db) : TimeoutRely db (action.act db) := by
  cases action <;> exact timeoutRely_refl db

/-! ### Handlers that keep names matching -/

section Sound

variable {α β : Type} {done : List Stmt} {db : Db}

/-- Whatever the other requests do, the handler's statements name rows that belong together, and `post`
holds of the value that it returns. -/
abbrev Names (post : List Stmt → Db → α → Prop) (done : List Stmt) (db : Db) (h : Handler α) : Prop :=
  Safe TimeoutRely NamesMatch (IfOk post) done db h

/-- Wherever the handler starts, its statements name rows that belong together. -/
def Sound (h : Handler α) : Prop :=
  ∀ done db, VerifyTasksMatch db → Names (fun _ _ _ => True) done db h

/-- What no other request breaks is still there when the handler has ended. -/
theorem Names.frame {post : List Stmt → Db → α → Prop} (Q : Db → Prop)
    (hstable : ∀ db db', TimeoutRely db db' → Q db → Q db') {h : Handler α}
    (hnames : Names post done db h) (hq : Q db) :
    Names (fun done db a => post done db a ∧ Q db) done db h := by
  have hguarantee : ∀ done db (stmt : Stmt), NamesMatch done db stmt →
      TimeoutRely db (stmt.exec db).2 := fun _ _ _ => timeoutRely_exec
  refine Safe.mono (Program.Robust.frame hstable hguarantee hnames hq) ?_
  rintro done db (e | a) ⟨hpost, hq⟩
  · trivial
  · exact ⟨hpost, hq⟩

theorem names_then (post : List Stmt → Db → α → Prop) {post' : List Stmt → Db → β → Prop}
    {h : Handler α} {f : α → Handler β} (hdb : VerifyTasksMatch db) (hnames : Names post done db h)
    (hok : ∀ done db a, VerifyTasksMatch db → post done db a → Names post' done db (f a)) :
    Names post' done db (h >>= f) := by
  have hkept := hnames.frame VerifyTasksMatch (fun _ _ hrely => hrely.1) hdb
  exact safe_then _ hkept fun done db a hpost => hok done db a hpost.2 hpost.1

theorem sound_pure (a : α) : Sound (pure a) := fun _ _ _ => trivial

theorem sound_throw (e : DomainError) : Sound (throw e : Handler α) := fun _ _ _ => trivial

theorem sound_bind {h : Handler α} {f : α → Handler β} (hh : Sound h) (hf : ∀ a, Sound (f a)) :
    Sound (h >>= f) := by
  intro done db hdb
  exact names_then _ hdb (hh done db hdb) fun done db a hdb _ => hf a done db hdb

/-- The kinds of writes that name no two rows which have to belong together. -/
def unlinkedWrites : List Write :=
  [.insertAgentTask, .enqueueInstanceTask, .claimAgentTask, .markTaskTimedOut, .setFileVerifying,
    .updateModelFile, .deleteModelFile, .insertTrash, .setTrashCleanupRunning,
    .setTrashCleanupPending, .deleteTrash, .insertModelInstance, .updateLocalInstance,
    .updateExternalInstance, .deleteModelInstance, .setInstanceLogTail, .insertRuntime,
    .updateRuntime, .setRuntimeChecked, .updateRuntimeCheck, .deleteRuntime, .recordHeartbeat]

theorem namesMatch_of_unlinked {stmt : Stmt} (h : stmt.Among unlinkedWrites) (done : List Stmt)
    (db : Db) : NamesMatch done db stmt := by
  have heffect : ∀ id entity, timeoutEffect done stmt = some (id, entity) →
      stmt.timeoutTarget = some entity ∨ ∃ file now, stmt = .expireModelFile file now := by
    intro id entity heffect
    unfold timeoutEffect at heffect
    split at heffect
    · exact .inr ⟨_, _, rfl⟩
    · split at heffect
      · rename_i htarget
        obtain ⟨-, rfl⟩ := Prod.mk.inj (Option.some.inj heffect)
        exact .inl htarget
      · exact nomatch heffect
  refine ⟨fun id entity hsome => ?_, ?_⟩
  · exfalso
    rcases heffect id entity hsome with htarget | ⟨file, now, rfl⟩
    · cases stmt with
      | setFileVerifyTimeout fileId now => exact absurd (h _ rfl) (by decide)
      | updateTrashFailure trashId status message now => exact absurd (h _ rfl) (by decide)
      | updateInstanceCheck instanceId status error now => exact absurd (h _ rfl) (by decide)
      | _ => exact nomatch htarget
    · exact absurd (h _ rfl) (by decide)
  · cases stmt with
    | enqueueFileVerification task fileId message now => exact absurd (h _ rfl) (by decide)
    | insertModelFile file => exact absurd (h _ rfl) (by decide)
    | recordResult selected status result now => exact absurd (h _ rfl) (by decide)
    | _ => trivial

theorem namesMatch_select {β : Type} (q : Db → β) (done : List Stmt) (db : Db) :
    NamesMatch done db (.select q) := by
  refine namesMatch_of_unlinked (fun w hw => ?_) done db
  exact nomatch hw

theorem Uses.sound {writes : List Write} {h : Handler α} (huses : Uses writes h)
    (hsub : writes ⊆ unlinkedWrites) : Sound h := by
  intro done db _
  refine Safe.mono (huses.safe (fun _ _ => True) (fun _ _ _ _ _ => trivial) ?_ trivial) ?_
  · intro done db stmt _ hamong
    exact ⟨namesMatch_of_unlinked (fun w hw => hsub (hamong w hw)) done db, trivial⟩
  · rintro done db (e | a) _ <;> trivial

theorem Uses.sound_reads {h : Handler α} (huses : Uses [] h) : Sound h :=
  huses.sound (List.nil_subset _)

/-! ### Timeouts -/

/-- A read, or a statement that puts this row into the state of a timeout. -/
def Stmt.TimesOut (entity : Entity) (stmt : Stmt) : Prop :=
  stmt.write = none ∨ stmt.timeoutTarget = some entity

theorem timeoutCause_cons_of_timesOut {entity : Entity} {stmt : Stmt} (h : stmt.TimesOut entity)
    (done : List Stmt) : timeoutCause (stmt :: done) = timeoutCause done := by
  cases stmt with
  | markTaskTimedOut taskId now => rcases h with h | h <;> exact nomatch h
  | _ => rfl

theorem namesMatch_of_timesOut {entity : Entity} {stmt : Stmt} (h : stmt.TimesOut entity)
    {id : String} {done : List Stmt} {db : Db} (hcause : timeoutCause done = some id)
    (hnames : TaskNames db id (some entity)) : NamesMatch done db stmt := by
  rcases h with hread | htarget
  · refine namesMatch_of_unlinked (fun w hw => ?_) done db
    rw [hread] at hw
    exact nomatch hw
  · refine ⟨fun id' entity' heffect => ?_, ?_⟩
    · cases stmt with
      | expireModelFile file now => exact nomatch htarget
      | _ =>
          simp only [timeoutEffect, hcause, htarget, Option.some.injEq, Prod.mk.injEq] at heffect
          obtain ⟨rfl, rfl⟩ := heffect
          exact hnames
    · cases stmt with
      | enqueueFileVerification task fileId message now => exact nomatch htarget
      | insertModelFile file => exact nomatch htarget
      | recordResult selected status result now => exact nomatch htarget
      | _ => trivial

/-- The handler reads, and puts only this row into the state of a timeout. -/
def TimesOut (entity : Entity) (h : Handler α) : Prop := h.run.Performs (Stmt.TimesOut entity)

theorem timesOut_execute {entity : Entity} {stmt : Stmt} (h : stmt.timeoutTarget = some entity) :
    TimesOut entity (execute stmt) := ⟨.inr h, fun _ => trivial⟩

theorem Uses.timesOut {h : Handler α} (huses : Uses [] h) (entity : Entity) : TimesOut entity h := by
  refine Program.Performs.mono (fun stmt hamong => ?_) huses
  cases hwrite : stmt.write with
  | none => exact .inl hwrite
  | some w => exact nomatch hamong w hwrite

theorem timesOut_bind {entity : Entity} {h : Handler α} {f : α → Handler β} (hh : TimesOut entity h)
    (hf : ∀ a, TimesOut entity (f a)) : TimesOut entity (h >>= f) := by
  refine Program.Performs.bind hh fun result => ?_
  cases result with
  | ok a => exact hf a
  | error e => trivial

/-- After the timeout of a task, the row that its payload names may be written. -/
theorem TimesOut.names {entity : Entity} {h : Handler α} (htimes : TimesOut entity h)
    {id : String} (hcause : timeoutCause done = some id) (hnames : TaskNames db id (some entity)) :
    Names (fun _ _ _ => True) done db h := by
  have hrobust : Safe TimeoutRely NamesMatch
      (fun done db _ => timeoutCause done = some id ∧ TaskNames db id (some entity)) done db h := by
    refine safe_of_performs
      (fun done db => timeoutCause done = some id ∧ TaskNames db id (some entity)) htimes ?_ ?_
      ⟨hcause, hnames⟩
    · rintro done db db' hrely ⟨hcause, hnames⟩
      exact ⟨hcause, hrely.2 id _ hnames⟩
    · rintro done db stmt ⟨hcause, hnames⟩ hstmt
      refine ⟨namesMatch_of_timesOut hstmt hcause hnames, ?_, taskNames_exec stmt hnames⟩
      rw [timeoutCause_cons_of_timesOut hstmt]
      exact hcause
  refine hrobust.mono ?_
  rintro done db (e | a) _ <;> trivial

theorem names_query (q : Db → α) {post : List Stmt → Db → α → Prop}
    (hpost : ∀ db', TimeoutRely db db' → post (.select q :: done) db' (q db')) :
    Names post done db (query q) := by
  exact safe_query (fun done db q => namesMatch_select q done db) hpost

theorem names_markTaskTimedOut (hdb : VerifyTasksMatch db) (taskId : String) :
    Names (fun done _ _ => timeoutCause done = some taskId) done db (markTaskTimedOut taskId) := by
  refine names_then (fun _ _ _ => True) hdb (names_query _ fun _ _ => trivial) ?_
  intro done db now _ _
  refine safe_execute (fun db' _ => namesMatch_of_unlinked (fun w hw => ?_) done db') fun _ _ => rfl
  rw [← Option.some.inj hw]
  decide

/-- What follows a timeout may write the row that the task's payload names. -/
theorem names_timeout {entity : Entity} {taskId : String} {h : Handler α} {f : α → Handler β}
    (htimes : TimesOut entity h) (hdb : VerifyTasksMatch db)
    (hnames : TaskNames db taskId (some entity)) (hf : ∀ a, Sound (f a)) :
    Names (fun _ _ _ => True) done db (do markTaskTimedOut taskId; let a ← h; f a) := by
  have hmark : Names (fun done _ _ => timeoutCause done = some taskId) done db
      (markTaskTimedOut taskId) := names_markTaskTimedOut hdb taskId
  have hkept := hmark.frame (TaskNames · taskId (some entity)) (fun _ _ hrely => hrely.2 taskId _)
    hnames
  refine names_then _ hdb hkept fun done db _ hdb hpost => ?_
  refine names_then _ hdb (htimes.names hpost.1 hpost.2) fun done db a hdb _ => ?_
  exact hf a done db hdb

theorem timesOut_updateInstanceCheck (instanceId : String) (error : Option String) :
    TimesOut (.instance instanceId) (updateInstanceCheck instanceId "failed" error) := by
  refine timesOut_bind (uses_nowUnixSecs.timesOut _) fun now => ?_
  refine timesOut_bind (timesOut_execute rfl) fun _ => ?_
  exact (uses_modelInstance instanceId).timesOut _

theorem timesOut_updateTrashFailure (trashId message : String) :
    TimesOut (.trash trashId) (updateTrashFailure trashId .cleanupTimeout message) :=
  timesOut_bind (uses_nowUnixSecs.timesOut _) fun _ => timesOut_execute rfl

/-- The timeout of a task writes the row that its payload names, if it names one. -/
theorem applyTimeout_cases (task : AgentTask) (now : Int) :
    (task.entity = none ∧ Uses [] (applyTimeout task now)) ∨
    ∃ entity, task.entity = some entity ∧ TimesOut entity (applyTimeout task now) := by
  have hinstance : ∀ instanceId, TimesOut (.instance instanceId) (do
      let _ ← updateInstanceCheck instanceId "failed" (some "Local instance task timed out")
      pure ()) := by
    intro instanceId
    refine timesOut_bind (timesOut_updateInstanceCheck instanceId _) fun _ => ?_
    exact (uses_pure ()).timesOut _
  unfold AgentTask.entity applyTimeout
  cases task.kind
  case verifyModelFile =>
    cases task.payloadJson.getStr "model_file_id" with
    | none => exact .inl ⟨rfl, uses_pure ()⟩
    | some fileId => exact .inr ⟨_, rfl, timesOut_execute rfl⟩
  case cleanupModelFile =>
    cases task.payloadJson.getStr "trash_id" with
    | none => exact .inl ⟨rfl, uses_pure ()⟩
    | some trashId => exact .inr ⟨_, rfl, timesOut_updateTrashFailure trashId _⟩
  all_goals first
    | exact .inl ⟨rfl, uses_pure ()⟩
    | (cases task.payloadJson.getStr "instance_id" with
       | none => exact .inl ⟨rfl, uses_pure ()⟩
       | some instanceId => exact .inr ⟨_, rfl, hinstance instanceId⟩)

theorem names_timeOutTasks (now : Int) (tasks : List AgentTask) (hdb : VerifyTasksMatch db)
    (htasks : ∀ task ∈ tasks, TaskNames db task.id task.entity) :
    Names (fun _ _ _ => True) done db (timeOutTasks now tasks) := by
  induction tasks generalizing done db with
  | nil => trivial
  | cons task tasks ih =>
      have hstable : ∀ db db', TimeoutRely db db' →
          (∀ task' ∈ task :: tasks, TaskNames db task'.id task'.entity) →
          ∀ task' ∈ task :: tasks, TaskNames db' task'.id task'.entity :=
        fun db db' hrely hall task' htask' => hrely.2 _ _ (hall task' htask')
      have hmark : Names (fun done _ _ => timeoutCause done = some task.id) done db
          (markTaskTimedOut task.id) := names_markTaskTimedOut hdb task.id
      refine names_then _ hdb (hmark.frame _ hstable htasks) fun done db _ hdb hpost => ?_
      obtain ⟨hcause, htasks⟩ := hpost
      have happly : Names (fun _ _ _ => True) done db (applyTimeout task now) := by
        rcases applyTimeout_cases task now with ⟨-, huses⟩ | ⟨entity, hentity, htimes⟩
        · exact huses.sound_reads done db hdb
        · refine htimes.names hcause ?_
          rw [← hentity]
          exact htasks task List.mem_cons_self
      refine names_then _ hdb (happly.frame _ hstable htasks) fun done db _ hdb hpost => ?_
      exact ih hdb fun task' htask' => hpost.2 task' (List.mem_cons_of_mem task htask')

theorem sound_markTimedOutTasks : Sound markTimedOutTasks := by
  intro done db hdb
  refine names_then _ hdb (uses_nowUnixSecs.sound_reads done db hdb) fun done db now hdb _ => ?_
  refine names_then (fun _ db rows => ∀ task ∈ rows, TaskNames db task.id task.entity) hdb
    (names_query _ fun db' _ task htask => ?_) fun done db rows hdb hrows => ?_
  · exact ⟨task, Table.find?_of_mem (List.mem_of_mem_filter htask), rfl⟩
  · exact names_timeOutTasks now rows hdb hrows

/-! ### Reading model files -/

/-- The selected rows are as the table has them, as far as their verification tasks go. -/
def RowsMatch (rows : List JoinedModelFile) (db : Db) : Prop :=
  ∀ row ∈ rows, ∀ id, row.file.verifyTaskId = some id → TaskNames db id (some (.file row.file.id))

theorem RowsMatch.stable {rows : List JoinedModelFile} {db db' : Db} (hrely : TimeoutRely db db')
    (h : RowsMatch rows db) : RowsMatch rows db' :=
  fun row hrow id hid => hrely.2 id _ (h row hrow id hid)

theorem names_expireModelFiles (now : Int) (rows : List JoinedModelFile) (hrows : RowsMatch rows db) :
    Names (fun _ _ _ => True) done db (expireModelFiles now rows) := by
  induction rows generalizing done db with
  | nil => trivial
  | cons row rows ih =>
      have htail : ∀ db, RowsMatch (row :: rows) db → RowsMatch rows db :=
        fun db h row' hrow' => h row' (List.mem_cons_of_mem row hrow')
      simp only [expireModelFiles]
      split
      · have hexpire : Names (fun _ _ _ => True) done db
            (execute (.expireModelFile row.file now)) := by
          refine safe_execute (fun db' hdb' => ⟨fun id entity heffect => ?_, trivial⟩)
            fun _ _ => trivial
          obtain ⟨id', hid', heq⟩ := Option.map_eq_some_iff.mp heffect
          obtain ⟨rfl, rfl⟩ := Prod.mk.inj heq
          exact hrows.stable hdb' row List.mem_cons_self id' hid'
        have hkept := hexpire.frame (RowsMatch (row :: rows)) (fun _ _ => RowsMatch.stable) hrows
        exact safe_then _ hkept fun done db _ hpost => ih (htail db hpost.2)
      · exact ih (htail db hrows)

theorem names_modelFileRows (modelId fileId : Option String) (hdb : VerifyTasksMatch db) :
    Names (fun _ _ rows => ∀ row ∈ rows, fileId.all (row.file.id = ·) = true) done db
      (modelFileRows modelId fileId) := by
  refine names_then _ hdb (sound_markTimedOutTasks done db hdb) fun done db _ hdb _ => ?_
  refine names_then _ hdb (uses_nowUnixSecs.sound_reads done db hdb) fun done db now hdb _ => ?_
  refine names_then
    (fun _ db rows => RowsMatch rows db ∧ ∀ row ∈ rows, fileId.all (row.file.id = ·) = true) hdb
    (names_query _ fun db' hdb' => ?_) fun done db rows hdb hrows => ?_
  · have hmem : ∀ row ∈ ((db'.modelFiles.rows.filter fun file =>
        modelId.all (file.modelId = ·) && fileId.all (file.id = ·) && file.deletedAt.isNone).map
          (joinModelFile db')).mergeSort JoinedModelFile.before,
        row.file ∈ db'.modelFiles.rows ∧ fileId.all (row.file.id = ·) = true := by
      intro row hrow
      rw [List.mem_mergeSort, List.mem_map] at hrow
      obtain ⟨file, hfile, rfl⟩ := hrow
      rw [List.mem_filter, Bool.and_eq_true, Bool.and_eq_true] at hfile
      exact ⟨hfile.1, hfile.2.1.2⟩
    refine ⟨fun row hrow id hid => ?_, fun row hrow => (hmem row hrow).2⟩
    exact hdb'.1 hdb row.file (hmem row hrow).1 id hid
  · refine names_then _ hdb (names_expireModelFiles now rows hrows.1) fun done db _ hdb _ => ?_
    exact safe_pure hrows.2

theorem names_modelFile (id : String) (hdb : VerifyTasksMatch db) :
    Names (fun _ _ view => view.id = id) done db (modelFile id) := by
  refine names_then _ hdb (names_modelFileRows none (some id) hdb) fun done db rows hdb hrows => ?_
  have hhead : Names (fun _ _ row => row.file.id = id) done db
      (required (.notFound "model file not found") rows.head?) := by
    refine safe_required trivial fun row hrow => ?_
    have hmem : row ∈ rows := List.mem_of_mem_head? hrow
    have hid : row.file.id = id := by simpa using hrows row hmem
    exact hid
  refine names_then _ hdb hhead fun done db row hdb hrow => ?_
  refine names_then _ hdb (uses_nowUnixSecs.sound_reads done db hdb) fun done db now _ _ => ?_
  exact safe_pure hrow

theorem sound_modelFile (id : String) : Sound (modelFile id) := by
  intro done db hdb
  refine (names_modelFile id hdb).mono ?_
  rintro done db (e | a) _ <;> trivial

theorem sound_queueModelFileVerification (id taskId : String) :
    Sound (queueModelFileVerification id taskId) := by
  intro done db hdb
  refine names_then _ hdb (names_modelFile id hdb) fun done db file hdb hfile => ?_
  refine names_then _ hdb (uses_nowUnixSecs.sound_reads done db hdb) fun done db now hdb _ => ?_
  refine names_then _ hdb ((uses_nodeOnline file.nodeId).sound_reads done db hdb)
    fun done db online hdb _ => ?_
  refine names_then (fun _ _ _ => True) hdb (safe_execute ?_ fun _ _ => trivial)
    fun done db accepted hdb _ => ?_
  · intro db' _
    refine ⟨fun id entity heffect => ?_, ?_⟩
    · simp only [timeoutEffect, Stmt.timeoutTarget] at heffect
      split at heffect
      · rename_i hnone
        exact nomatch hnone
      · exact nomatch heffect
    · simp [AgentTask.entity, NewAgentTask.row, Json.getStr, Json.asStr, hfile]
  · refine names_then _ hdb ((uses_inserted accepted).sound_reads done db hdb)
      fun done db _ hdb _ => ?_
    exact sound_modelFile id done db hdb

/-! ### Waiting for a task -/

theorem names_waitForTask {taskId : String} {entity : Option Entity}
    {ended : AgentTask → Option (Handler α)} {deadline : Handler α}
    (hended : ∀ task outcome, ended task = some outcome → Sound outcome)
    (hdeadline : ∀ done db, VerifyTasksMatch db → TaskNames db taskId entity →
      Names (fun _ _ _ => True) done db deadline) (rounds : Nat) (hdb : VerifyTasksMatch db)
    (htask : TaskNames db taskId entity) :
    Names (fun _ _ _ => True) done db (waitForTask taskId ended deadline rounds) := by
  induction rounds generalizing done db with
  | zero =>
      refine names_then (fun _ db _ => TaskNames db taskId entity) hdb
        (names_query _ fun db' hdb' => hdb'.2 _ _ htask) fun done db row hdb htask => ?_
      refine names_then (fun _ db _ => TaskNames db taskId entity) hdb
        (safe_required trivial fun _ _ => htask) fun done db task hdb htask => ?_
      split
      · exact hended task _ ‹_› done db hdb
      · exact hdeadline done db hdb htask
  | succ rounds ih =>
      refine names_then (fun _ db _ => TaskNames db taskId entity) hdb
        (names_query _ fun db' hdb' => hdb'.2 _ _ htask) fun done db row hdb htask => ?_
      refine names_then (fun _ db _ => TaskNames db taskId entity) hdb
        (safe_required trivial fun _ _ => htask) fun done db task hdb htask => ?_
      split
      · exact hended task _ ‹_› done db hdb
      · exact ih hdb htask

theorem names_waitForModelInstanceTask {instanceId taskId : String} (rounds : Nat)
    (hdb : VerifyTasksMatch db) (htask : TaskNames db taskId (some (.instance instanceId))) :
    Names (fun _ _ _ => True) done db (waitForModelInstanceTask instanceId taskId rounds) := by
  refine names_waitForTask (fun task outcome hended => ?_) (fun done db hdb htask => ?_) rounds hdb
    htask
  · unfold instanceTaskEnded at hended
    split at hended
    · obtain rfl := Option.some.inj hended
      exact (uses_modelInstance instanceId).sound_reads
    · obtain rfl := Option.some.inj hended
      exact sound_throw _
    · obtain rfl := Option.some.inj hended
      exact sound_throw _
    · exact nomatch hended
  · exact names_timeout (timesOut_updateInstanceCheck instanceId _) hdb htask fun _ => sound_throw _

theorem names_waitForModelFileCleanup {trashId taskId : String} (rounds : Nat)
    (hdb : VerifyTasksMatch db) (htask : TaskNames db taskId (some (.trash trashId))) :
    Names (fun _ _ _ => True) done db (waitForModelFileCleanup trashId taskId rounds) := by
  refine names_waitForTask (fun task outcome hended => ?_) (fun done db hdb htask => ?_) rounds hdb
    htask
  · unfold cleanupEnded at hended
    split at hended
    · obtain rfl := Option.some.inj hended
      exact (uses_modelFileTrashItem trashId).sound_reads
    · obtain rfl := Option.some.inj hended
      exact sound_throw _
    · obtain rfl := Option.some.inj hended
      exact sound_throw _
    · exact nomatch hended
  · exact names_timeout (timesOut_updateTrashFailure trashId _) hdb htask fun _ => sound_throw _

/-! ### Enqueueing a task for an instance -/

@[simp]
theorem getStr_instancePayload (deps : External) (row : ModelInstanceView)
    (runtimeEnvironmentId : String) (env : RuntimeEnvironment) (params : Json)
    (file : Option (String × InstanceModelFile)) :
    (instancePayload deps row runtimeEnvironmentId env params file).getStr "instance_id"
      = some row.id := rfl

theorem getStr_completePayload (payload : Json) (runtimeParams : Option Json)
    (modelName : Option String) {key : String} (hparams : "runtime_params" ≠ key)
    (hname : "model_name" ≠ key) :
    (completePayload payload runtimeParams modelName).getStr key = payload.getStr key := by
  unfold completePayload
  cases runtimeParams <;> cases modelName <;>
    simp [Json.getStr_set_of_ne _ hparams, Json.getStr_set_of_ne _ hname]

theorem names_modelInstance (id : String) (hdb : VerifyTasksMatch db) :
    Names (fun _ _ view => view.id = id) done db (modelInstance id) := by
  refine names_then (fun _ _ row => ∀ view, row = some view → view.id = id) hdb
    (names_query _ fun db' _ view hview => ?_) fun done db row hdb hrow => ?_
  · obtain ⟨row, hrow, rfl⟩ := Option.map_eq_some_iff.mp hview
    exact Table.find?_key hrow
  · refine names_then (fun _ _ view => view.id = id) hdb (safe_required trivial fun view hview => ?_)
      fun done db view hdb hview => ?_
    · exact hrow view hview
    · refine names_then _ hdb (uses_nowUnixSecs.sound_reads done db hdb) fun done db now _ _ => ?_
      exact safe_pure hview

/-- An enqueued task names the instance it has been enqueued for. -/
theorem names_enqueueLocalInstanceTask (deps : External) (id : String) {kind : TaskKind}
    (hkind : kind.isInstanceTask = true) (pendingStatus taskId : String)
    (hdb : VerifyTasksMatch db) :
    Names (fun _ db _ => TaskNames db taskId (some (.instance id))) done db
      (enqueueLocalInstanceTask deps id kind pendingStatus taskId) := by
  have hreads : ∀ {α : Type} {h : Handler α} {done : List Stmt} {db : Db}, Uses [] h →
      VerifyTasksMatch db → Names (fun _ _ _ => True) done db h :=
    fun huses hdb => huses.sound_reads _ _ hdb
  refine names_then _ hdb (names_modelInstance id hdb) fun done db row hdb hrow => ?_
  refine names_then _ hdb (hreads (uses_rejectIf _ _) hdb) fun done db _ hdb _ => ?_
  refine names_then _ hdb (hreads (uses_required _ _) hdb) fun done db nodeId hdb _ => ?_
  refine names_then _ hdb (hreads (uses_nodeOnline _) hdb) fun done db online hdb _ => ?_
  refine names_then _ hdb (hreads (uses_rejectIf _ _) hdb) fun done db _ hdb _ => ?_
  refine names_then _ hdb (hreads (uses_required _ _) hdb) fun done db envId hdb _ => ?_
  refine names_then _ hdb (hreads (uses_runtimeEnvironment _) hdb) fun done db env hdb _ => ?_
  refine names_then _ hdb (hreads (uses_rejectIf _ _) hdb) fun done db _ hdb _ => ?_
  refine names_then _ hdb (hreads (uses_checked _) hdb) fun done db params hdb _ => ?_
  refine names_then _ hdb (hreads uses_nowUnixSecs hdb) fun done db now hdb _ => ?_
  refine names_then _ hdb (hreads (uses_instanceTaskFile _ _) hdb) fun done db file hdb _ => ?_
  refine names_then (fun _ db accepted => accepted = true → TaskNames db taskId (some (.instance id)))
    hdb (safe_execute (fun db' _ => ?_) fun db' _ haccepted => ?_) fun done db accepted _ hstored => ?_
  · refine namesMatch_of_unlinked (fun w hw => ?_) done db'
    rw [← Option.some.inj hw]
    decide
  · refine ⟨_, insertTask_stored (fun _ => rfl) haccepted, ?_⟩
    have hpayload : ∀ runtimeParams modelName, (completePayload
        (instancePayload deps row envId env params file) runtimeParams modelName).getStr "instance_id"
          = some id := by
      intro runtimeParams modelName
      rw [getStr_completePayload _ _ _ (by decide) (by decide), getStr_instancePayload, hrow]
    cases kind <;> first
      | exact absurd hkind (by decide)
      | simp [AgentTask.entity, NewAgentTask.row, hpayload]
  · cases accepted with
    | true => exact hstored rfl
    | false => trivial

theorem sound_runLocalInstanceTask (deps : External) (id : String) {kind : TaskKind}
    (hkind : kind.isInstanceTask = true) (pendingStatus taskId : String) (rounds : Nat) :
    Sound (runLocalInstanceTask deps id kind pendingStatus taskId rounds) := by
  intro done db hdb
  have henqueue : Names (fun _ db _ => TaskNames db taskId (some (.instance id))) done db
      (enqueueLocalInstanceTask deps id kind pendingStatus taskId) :=
    names_enqueueLocalInstanceTask deps id hkind pendingStatus taskId hdb
  refine names_then _ hdb henqueue fun done db _ hdb htask => ?_
  exact names_waitForModelInstanceTask rounds hdb htask

/-- What a request that has timed nothing out may do to an instance. -/
theorem Uses.names_untimed {writes : List Write} {h : Handler α} (huses : Uses writes h)
    (hsub : writes ⊆ [.enqueueInstanceTask, .updateInstanceCheck]) (hcause : timeoutCause done = none) :
    Names (fun done _ _ => timeoutCause done = none) done db h := by
  have hop : ∀ done db (stmt : Stmt), timeoutCause done = none → stmt.Among writes →
      NamesMatch done db stmt ∧ timeoutCause (stmt :: done) = none := by
    intro done db stmt hcause hamong
    have hkind : ∀ w, stmt.write = some w → w = .enqueueInstanceTask ∨ w = .updateInstanceCheck :=
      fun w hw => by simpa using hsub (hamong w hw)
    cases stmt with
    | select q => exact ⟨namesMatch_select q done db, hcause⟩
    | enqueueInstanceTask task instanceId pendingStatus now =>
        refine ⟨namesMatch_of_unlinked (fun w hw => ?_) done db, hcause⟩
        rw [← Option.some.inj hw]
        decide
    | updateInstanceCheck instanceId status error now =>
        refine ⟨⟨fun id entity heffect => ?_, trivial⟩, hcause⟩
        simp only [timeoutEffect, hcause] at heffect
        exact nomatch heffect
    | _ => simpa using hkind _ rfl
  have hsafe : Safe TimeoutRely NamesMatch (fun done _ _ => timeoutCause done = none) done db h :=
    huses.safe (fun done _ => timeoutCause done = none) (fun _ _ _ _ h => h) hop hcause
  refine hsafe.mono ?_
  rintro done db (e | a) hpost
  · trivial
  · exact hpost

theorem names_updateInstanceCheck_untimed (id status : String) (error : Option String)
    (hcause : timeoutCause done = none) :
    Names (fun done _ _ => timeoutCause done = none) done db (updateInstanceCheck id status error) := by
  have huses : Uses [.updateInstanceCheck] (updateInstanceCheck id status error) :=
    uses_updateInstanceCheck List.mem_cons_self id status error
  exact huses.names_untimed (by decide) hcause

/-- A check that returns no view has enqueued its task. -/
theorem names_beginCheck (deps : External) (id taskId : String) (http : HttpOutcome)
    (hdb : VerifyTasksMatch db) (hcause : timeoutCause done = none) :
    Names (fun _ db begun => begun = none → TaskNames db taskId (some (.instance id))) done db
      (beginCheck deps id taskId http) := by
  have hreads : ∀ {α : Type} {h : Handler α} {done : List Stmt} {db : Db}, Uses [] h →
      timeoutCause done = none → Names (fun done _ _ => timeoutCause done = none) done db h :=
    fun huses hcause => huses.names_untimed (List.nil_subset _) hcause
  have hchecked : ∀ {done : List Stmt} {db : Db} (status : String) (error : Option String),
      VerifyTasksMatch db → timeoutCause done = none →
      Names (fun _ db begun => begun = none → TaskNames db taskId (some (.instance id))) done db
        (do let view ← updateInstanceCheck id status error; pure (some view)) := by
    intro done db status error hdb hcause
    refine names_then _ hdb (names_updateInstanceCheck_untimed id status error hcause)
      fun done db view _ _ => ?_
    exact safe_pure fun h => nomatch h
  refine names_then _ hdb (hreads (uses_modelInstance id) hcause) fun done db row hdb hcause => ?_
  by_cases hexternal : row.deployType ≠ "external"
  · rw [if_pos hexternal]
    split
    · exact safe_pure fun h => nomatch h
    · refine names_then _ hdb (hreads (uses_required _ _) hcause) fun done db nodeId hdb hcause => ?_
      refine names_then _ hdb (hreads (uses_nodeOnline nodeId) hcause)
        fun done db online hdb hcause => ?_
      split
      · refine names_then _ hdb
          (names_enqueueLocalInstanceTask deps id rfl "running" taskId hdb)
          fun done db _ _ htask => ?_
        exact safe_pure fun _ => htask
      · exact hchecked row.status _ hdb hcause
  · rw [if_neg hexternal]
    unfold checkExternalInstance
    split
    · exact hchecked "unknown" _ hdb hcause
    · exact hchecked _ _ hdb hcause

theorem names_finishCheck {id taskId : String} (rounds : Nat) {begun : Option ModelInstanceView}
    (hdb : VerifyTasksMatch db) (hbegun : begun = none → TaskNames db taskId (some (.instance id))) :
    Names (fun _ _ _ => True) done db (finishCheck id taskId rounds begun) := by
  cases begun with
  | some view => trivial
  | none => exact names_waitForModelInstanceTask rounds hdb (hbegun rfl)

theorem names_checkModelInstance (deps : External) (id taskId : String) (http : HttpOutcome)
    (rounds : Nat) (hdb : VerifyTasksMatch db) (hcause : timeoutCause done = none) :
    Names (fun _ _ _ => True) done db (checkModelInstance deps id taskId http rounds) := by
  refine names_then _ hdb (names_beginCheck deps id taskId http hdb hcause)
    fun done db begun hdb hbegun => ?_
  exact names_finishCheck rounds hdb hbegun

theorem names_testModelInstance (deps : External) (id taskId : String) (http : HttpOutcome)
    (rounds : Nat) (hdb : VerifyTasksMatch db) (hcause : timeoutCause done = none) :
    Names (fun _ _ _ => True) done db (testModelInstance deps id taskId http rounds) := by
  have hbegin : Names (fun _ db begun => begun = none → TaskNames db taskId (some (.instance id)))
      done db (beginTest deps id taskId http) := by
    have hread : Names (fun done _ _ => timeoutCause done = none) done db (modelInstance id) :=
      (uses_modelInstance id).names_untimed (List.nil_subset _) hcause
    refine names_then _ hdb hread fun done db row hdb hcause => ?_
    split
    · exact names_beginCheck deps id taskId http hdb hcause
    · split
      · trivial
      · refine names_then _ hdb (names_enqueueLocalInstanceTask deps id rfl "running" taskId hdb)
          fun done db _ _ htask => ?_
        exact safe_pure fun _ => htask
  exact names_then _ hdb hbegin fun done db begun hdb hbegun => names_finishCheck rounds hdb hbegun

/-! ### The other requests -/

/-- What a request that begins with a sweep is made of. -/
theorem composes_sound : Composes (fun _ h => Sound h) unlinkedWrites where
  uses huses := huses.sound (List.Subset.refl _)
  bind := sound_bind

theorem sound_modelFileRows (modelId fileId : Option String) : Sound (modelFileRows modelId fileId) := by
  intro done db hdb
  refine (names_modelFileRows modelId fileId hdb).mono ?_
  rintro done db (e | a) _ <;> trivial

/-- A file is inserted without a verification task. -/
theorem sound_insertModelFile {file : ModelFile} (htask : file.verifyTaskId = none) :
    Sound (execute (.insertModelFile file)) := by
  intro done db _
  refine safe_execute (fun db' _ => ⟨fun id entity heffect => ?_, htask⟩) fun _ _ => trivial
  cases hcause : timeoutCause done <;> simp [timeoutEffect, Stmt.timeoutTarget, hcause] at heffect

theorem sound_recordAgentTaskResult (taskId : String) (request : AgentTaskResultRequest) :
    Sound (recordAgentTaskResult taskId request) := by
  intro done db hdb
  have hstable : ∀ (task : AgentTask) db db', TimeoutRely db db' →
      TaskNames db task.id task.entity → TaskNames db' task.id task.entity :=
    fun task _ _ hrely => hrely.2 task.id task.entity
  refine names_then (fun _ db found => ∀ task, found = some task → TaskNames db task.id task.entity)
    hdb (names_query _ fun db' _ task htask => ?_) fun done db found hdb hfound => ?_
  · have hstored := Option.eq_some_of_filter_eq_some htask
    exact ⟨task, by rw [Table.find?_key hstored]; exact hstored, rfl⟩
  refine names_then (fun _ db (task : AgentTask) => TaskNames db task.id task.entity) hdb
    (safe_required trivial hfound) fun done db task hdb htask => ?_
  have hstatus : Sound (required (.badRequest "status is invalid") (resultStatus request.status)) :=
    (uses_required _ _).sound_reads
  refine names_then _ hdb ((hstatus done db hdb).frame _ (hstable task) htask)
    fun done db status hdb hpost => ?_
  have hnow : Sound nowUnixSecs := uses_nowUnixSecs.sound_reads
  refine names_then _ hdb ((hnow done db hdb).frame _ (hstable task) hpost.2)
    fun done db now hdb hpost => ?_
  refine names_then (fun _ _ _ => True) hdb (safe_execute (fun db' hdb' => ?_) fun _ _ => trivial)
    fun done db outcome hdb _ => ?_
  · refine ⟨fun id entity heffect => ?_, hstable task _ _ hdb' hpost.2⟩
    cases hcause : timeoutCause done <;> simp [timeoutEffect, Stmt.timeoutTarget, hcause] at heffect
  · have hrest : Sound (do let _ ← checked outcome; pure ()) :=
      sound_bind (uses_checked outcome).sound_reads fun _ => sound_pure ()
    exact hrest done db hdb

/-- The task that cleans a file up names the trash item it has been enqueued for. -/
theorem sound_runCleanupTask (id nodeId path taskId : String) (rounds : Nat) :
    Sound (runCleanupTask id nodeId path taskId rounds) := by
  intro done db hdb
  have hstable : ∀ db db', TimeoutRely db db' → TaskNames db taskId (some (.trash id)) →
      TaskNames db' taskId (some (.trash id)) := fun _ _ hrely => hrely.2 taskId _
  refine names_then _ hdb (uses_nowUnixSecs.sound_reads done db hdb) fun done db now hdb _ => ?_
  refine names_then (fun _ db accepted => accepted = true → TaskNames db taskId (some (.trash id)))
    hdb (safe_execute (fun db' _ => ?_) fun db' _ haccepted => ?_) fun done db accepted hdb hstored => ?_
  · refine namesMatch_of_unlinked (fun w hw => ?_) done db'
    rw [← Option.some.inj hw]
    decide
  · exact ⟨_, insertTask_stored (fun _ => rfl) haccepted, rfl⟩
  refine names_then (fun _ db _ => TaskNames db taskId (some (.trash id))) hdb ?_
    fun done db _ hdb htask => ?_
  · cases accepted with
    | true => exact hstored rfl
    | false => trivial
  have hwrite : Uses [.setTrashCleanupPending] (execute (.setTrashCleanupPending id taskId now)) :=
    uses_execute rfl List.mem_cons_self
  have hpending := (hwrite.sound (by decide) done db hdb).frame _ hstable htask
  refine names_then _ hdb hpending fun done db _ hdb hpost => ?_
  exact names_waitForModelFileCleanup rounds hdb hpost.2

theorem sound_cleanupModelFileTrash (id taskId : String) (rounds : Nat) :
    Sound (cleanupModelFileTrash id taskId rounds) := by
  apply sound_bind (uses_modelFileTrashItem id).sound_reads
  intro item
  apply sound_bind (uses_required _ _).sound_reads
  intro nodeId
  split
  · exact sound_pure _
  apply sound_bind (uses_nodeOnline nodeId).sound_reads
  intro online
  split
  · exact sound_runCleanupTask id nodeId item.path taskId rounds
  apply sound_bind
  · apply sound_bind uses_nowUnixSecs.sound_reads
    intro now done db _
    refine safe_execute (fun db' _ => ⟨fun id entity heffect => ?_, trivial⟩) fun _ _ => trivial
    cases hcause : timeoutCause done <;> simp [timeoutEffect, Stmt.timeoutTarget, hcause] at heffect
  · exact fun _ => sound_throw _

/-- Whatever the other requests do, a request writes only rows that belong together. -/
theorem names_handler (deps : External) (request : Request) (hdb : VerifyTasksMatch db) :
    Names (fun _ _ _ => True) [] db (request.handler deps) := by
  have hanswered : ∀ {α : Type} {h : Handler α}, Sound h → Names (fun _ _ _ => True) [] db (answered h) :=
    fun hsound => sound_bind hsound (fun _ => sound_pure _) [] db hdb
  have hunlinked : request.writes ⊆ unlinkedWrites →
      Names (fun _ _ _ => True) [] db (request.handler deps) :=
    fun hsub => (uses_handler deps request).sound hsub [] db hdb
  have hkept : ∀ {α : Type} {h : Handler α}, Names (fun _ _ _ => True) [] db h →
      Names (fun _ _ _ => True) [] db (answered h) :=
    fun hnames => names_then _ hdb hnames fun _ _ _ _ _ => safe_pure trivial
  cases request
  case pollAgentTask nodeId version waits =>
    exact sound_bind (composes_sound.pollAgentTask sound_markTimedOutTasks (by decide) nodeId version waits)
      (fun _ => sound_pure _) [] db hdb
  case recordAgentTaskResult => exact hanswered (sound_recordAgentTaskResult _ _)
  case startModelInstance => exact hanswered (sound_runLocalInstanceTask deps _ rfl _ _ _)
  case stopModelInstance => exact hanswered (sound_runLocalInstanceTask deps _ rfl _ _ _)
  case checkModelInstance => exact hkept (names_checkModelInstance deps _ _ _ _ hdb rfl)
  case testModelInstance => exact hkept (names_testModelInstance deps _ _ _ _ hdb rfl)
  case listModelFiles => exact hanswered (composes_sound.listModelFiles sound_modelFileRows _)
  case modelFileSummary =>
    exact hanswered (composes_sound.modelFileSummary sound_markTimedOutTasks _)
  case createModelFile =>
    exact hanswered (composes_sound.createModelFile sound_modelFileRows (by decide)
      (fun _ => sound_insertModelFile) _ _ _ _ _)
  case updateModelFile =>
    exact hanswered (composes_sound.updateModelFile sound_modelFileRows (by decide) (by decide) _ _ _ _)
  case queueModelFileVerification => exact hanswered (sound_queueModelFileVerification _ _)
  case deleteModelFile =>
    exact hanswered (composes_sound.deleteModelFile sound_modelFileRows (by decide) (by decide) _ _)
  case createModelFileTrash =>
    exact hanswered (composes_sound.ensureModelFileTrash sound_modelFileRows (by decide) _ _ _ _)
  case cleanupModelFileTrash => exact hanswered (sound_cleanupModelFileTrash _ _ _)
  all_goals exact hunlinked (by simp only [Request.writes]; decide)

end Sound

end LightAI.Server
