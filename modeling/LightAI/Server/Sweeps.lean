import LightAI.Server.Guards

/-!
# The sweep over expired tasks

Every poll and every read of a file first times out the expired tasks of all nodes. The sweep reads back
the instance that a timed-out task names, and so it ends with an error, and its request with it, when
that instance has been deleted.
-/

namespace LightAI.Server

open Interleaving

/-- The sweep succeeds, and every expired task is timed out. -/
def SweepsAll (db : Db) : Prop :=
  (serve markTimedOutTasks db).1 = .ok () ∧
    ∀ task ∈ db.agentTasks.rows, task.expired db.clock = true →
      ∃ task', (serve markTimedOutTasks db).2.agentTasks.find? task.id = some task' ∧
        task'.status = .timedOut

/-- Every poll succeeds, and so does every read of a file that is there. -/
def ReadsSucceed (db : Db) : Prop :=
  (∀ nodeId version waits, ∃ response,
    (serve (pollAgentTask nodeId version waits) db).1 = .ok response) ∧
  ∀ id file, db.modelFiles.find? id = some file → file.deletedAt = none →
    ∃ view, (serve (modelFile id) db).1 = .ok view

def TimeoutsContained (db : Db) : Prop := SweepsAll db ∧ ReadsSucceed db

/-- The instance that an expired task names is there. -/
def ExpiredNamesInstance (db : Db) : Prop :=
  ∀ task ∈ db.agentTasks.rows, task.expired db.clock = true →
    ∀ instanceId, task.entity = some (.instance instanceId) →
      (db.modelInstances.find? instanceId).isSome = true

/-! ### When the sweep succeeds -/

theorem stopsSweep_eq_false {db : Db} {task : AgentTask} :
    db.stopsSweep task = false ↔ ∀ instanceId, task.entity = some (.instance instanceId) →
      (db.modelInstances.find? instanceId).isSome = true := by
  unfold Db.stopsSweep
  cases task.entity with
  | none => simp
  | some entity =>
      cases entity with
      | «instance» id => simp [Option.isNone_eq_false_iff]
      | file id => simp
      | trash id => simp

theorem stopsSweep_congr {db db' : Db} (h : SameInstances db db') (task : AgentTask) :
    db'.stopsSweep task = db.stopsSweep task := by
  unfold Db.stopsSweep
  cases task.entity with
  | none => rfl
  | some entity =>
      cases entity with
      | «instance» id => exact h id
      | file id => rfl
      | trash id => rfl

/-- The loop fails exactly if it comes to a task that it cannot read the instance of. -/
theorem timeOutTasks_fails_iff (now : Int) (tasks : List AgentTask) (db : Db) :
    (∃ e, (serve (timeOutTasks now tasks) db).1 = .error e)
      ↔ ∃ task ∈ tasks, db.stopsSweep task = true := by
  induction tasks generalizing db with
  | nil =>
      constructor
      · rintro ⟨e, h⟩
        cases h
      · rintro ⟨task, hmem, -⟩
        cases hmem
  | cons task tasks ih =>
      have hmark : serve (markTaskTimedOut task.id) db
          = (.ok (), ((Stmt.markTaskTimedOut task.id db.clock).exec db).2) := rfl
      have hmarked : SameInstances db ((Stmt.markTaskTimedOut task.id db.clock).exec db).2 :=
        fun _ => rfl
      obtain ⟨-, hsame, hstops⟩ := serve_applyTimeout task now
        ((Stmt.markTaskTimedOut task.id db.clock).exec db).2
      rw [stopsSweep_congr hmarked] at hstops
      unfold timeOutTasks
      rw [serve_bind_ok hmark]
      cases hserve : serve (applyTimeout task now)
          ((Stmt.markTaskTimedOut task.id db.clock).exec db).2 with
      | mk outcome db' =>
          rw [hserve] at hsame hstops
          have hall : SameInstances db db' := hmarked.trans hsame
          cases outcome with
          | error e =>
              rw [serve_bind_error hserve]
              exact iff_of_true ⟨e, rfl⟩ ⟨task, List.mem_cons_self, hstops.mp ⟨e, rfl⟩⟩
          | ok u =>
              have hgo : ¬ db.stopsSweep task = true := by
                intro hstop
                obtain ⟨e, h⟩ := hstops.mpr hstop
                cases h
              rw [serve_bind_ok hserve, ih db']
              simp only [stopsSweep_congr hall, List.exists_mem_cons_iff]
              exact (or_iff_right hgo).symm

theorem sweep_succeeds_iff (db : Db) :
    (serve markTimedOutTasks db).1 = .ok () ↔ ExpiredNamesInstance db := by
  have hserve : serve markTimedOutTasks db
      = serve (timeOutTasks db.clock (db.agentTasks.rows.filter (·.expired db.clock))) db := rfl
  have hfails := timeOutTasks_fails_iff db.clock (db.agentTasks.rows.filter (·.expired db.clock)) db
  rw [hserve]
  have hnames : ExpiredNamesInstance db ↔ ¬ ∃ task ∈ db.agentTasks.rows.filter (·.expired db.clock),
      db.stopsSweep task = true := by
    unfold ExpiredNamesInstance
    simp only [← stopsSweep_eq_false]
    simp
  rw [hnames, ← hfails]
  cases (serve (timeOutTasks db.clock (db.agentTasks.rows.filter (·.expired db.clock))) db).1 with
  | ok u => simp
  | error e => simp

/-! ### What the sweep leaves -/

/-- The clock stands still, and each task is as it was or has been timed out. -/
structure Swept (db db' : Db) : Prop where
  clock : db'.clock = db.clock
  tasks : ∀ id, (db.agentTasks.find? id = none ∧ db'.agentTasks.find? id = none) ∨
    ∃ task task', db.agentTasks.find? id = some task ∧ db'.agentTasks.find? id = some task' ∧
      (task' = task ∨ task'.status = .timedOut)

theorem Swept.of_agentTasks {db db' : Db} (hclock : db'.clock = db.clock)
    (htasks : db'.agentTasks = db.agentTasks) : Swept db db' where
  clock := hclock
  tasks id := by
    rw [htasks]
    cases db.agentTasks.find? id with
    | none => exact .inl ⟨rfl, rfl⟩
    | some task => exact .inr ⟨task, task, rfl, rfl, .inl rfl⟩

theorem Swept.refl (db : Db) : Swept db db := .of_agentTasks rfl rfl

theorem Swept.trans {db db' db'' : Db} (h : Swept db db') (h' : Swept db' db'') : Swept db db'' where
  clock := h'.clock.trans h.clock
  tasks id := by
    rcases h.tasks id with ⟨hnone, hnone'⟩ | ⟨task, task', htask, htask', hfirst⟩
    · rcases h'.tasks id with ⟨-, hnone''⟩ | ⟨task', task'', htask', -, -⟩
      · exact .inl ⟨hnone, hnone''⟩
      · rw [hnone'] at htask'
        cases htask'
    · rcases h'.tasks id with ⟨hnone', -⟩ | ⟨between, task'', hbetween, htask'', hsecond⟩
      · rw [hnone'] at htask'
        cases htask'
      · obtain rfl := Option.some.inj (hbetween.symm.trans htask')
        refine .inr ⟨task, task'', htask, htask'', ?_⟩
        rcases hsecond with rfl | htimedOut
        · exact hfirst
        · exact .inr htimedOut

theorem swept_exec {stmt : Stmt} (h : stmt.Among sweepWrites) (db : Db) :
    Swept db (stmt.exec db).2 := by
  cases stmt with
  | select query => exact .refl db
  | markTaskTimedOut taskId now =>
      refine ⟨rfl, fun id => ?_⟩
      cases htask : db.agentTasks.find? id with
      | none =>
          have hfind := Table.find?_updateWhere db.agentTasks
            (fun task => task.id = taskId && task.status.isLive) (·.timeOut now) (fun _ => rfl) id
          rw [htask] at hfind
          exact .inl ⟨rfl, hfind⟩
      | some task =>
          refine .inr ⟨task, _, rfl, find?_exec_of_some _ htask, ?_⟩
          simp only [Stmt.onTask]
          split
          · exact .inr rfl
          · exact .inl rfl
  | setFileVerifyTimeout fileId now => exact .of_agentTasks rfl rfl
  | updateTrashFailure trashId status message now => exact .of_agentTasks rfl rfl
  | updateInstanceCheck instanceId status error now => exact .of_agentTasks rfl rfl
  | _ => exact absurd (h _ rfl) (by decide)

theorem Uses.swept {α : Type} {h : Handler α} (huses : Uses sweepWrites h) (db : Db) :
    Swept db (serve h db).2 :=
  Program.Performs.run_rel Swept.refl (fun _ _ _ => Swept.trans) (fun _ db => (swept_exec · db))
    huses db

theorem Swept.find {db db' : Db} (h : Swept db db') {id : String} {task : AgentTask}
    (htask : db.agentTasks.find? id = some task) :
    ∃ task', db'.agentTasks.find? id = some task' ∧ (task' = task ∨ task'.status = .timedOut) := by
  rcases h.tasks id with ⟨hnone, -⟩ | ⟨before, after, hbefore, hafter, hkept⟩
  · rw [htask] at hnone
    cases hnone
  · obtain rfl := Option.some.inj (htask.symm.trans hbefore)
    exact ⟨after, hafter, hkept⟩

/-- A task that is live when its sweep reaches it is timed out when the sweep ends. -/
theorem timeOutTasks_timedOut {now : Int} {tasks : List AgentTask} {db db' : Db}
    (hserve : serve (timeOutTasks now tasks) db = (.ok (), db')) {task stored : AgentTask}
    (hmem : task ∈ tasks) (hstored : db.agentTasks.find? task.id = some stored)
    (hlive : stored.status.isLive = true ∨ stored.status = .timedOut) :
    ∃ task', db'.agentTasks.find? task.id = some task' ∧ task'.status = .timedOut := by
  induction tasks generalizing db stored with
  | nil => cases hmem
  | cons first tasks ih =>
      unfold timeOutTasks at hserve
      obtain ⟨_, marked, hmark, hserve⟩ := serve_bind_eq_ok hserve
      obtain ⟨_, applied, happly, hrest⟩ := serve_bind_eq_ok hserve
      have hmarked : marked = ((Stmt.markTaskTimedOut first.id db.clock).exec db).2 :=
        (congrArg Prod.snd hmark).symm
      have hfirst := (uses_applyTimeout (List.Subset.refl sweepWrites) first now).swept marked
      rw [happly] at hfirst
      have hothers := (uses_timeOutTasks (List.Subset.refl sweepWrites) now tasks).swept applied
      rw [hrest] at hothers
      have hfind := find?_exec_of_some (.markTaskTimedOut first.id db.clock) hstored
      rw [← hmarked] at hfind
      by_cases hid : first.id = task.id
      · have hkey : stored.id = first.id := (Table.find?_key hstored).trans hid.symm
        have htimedOut : ((Stmt.markTaskTimedOut first.id db.clock).onTask stored).status
            = TaskStatus.timedOut := by
          simp only [Stmt.onTask, hkey, true_and]
          rcases hlive with hlive | htimedOut
          · rw [if_pos hlive]
            rfl
          · rw [htimedOut]
            exact htimedOut
        obtain ⟨after, hafter, hkept⟩ := (hfirst.trans hothers).find hfind
        refine ⟨after, hafter, ?_⟩
        rcases hkept with rfl | hdone
        · exact htimedOut
        · exact hdone
      · have hmem' : task ∈ tasks := by
          rcases List.mem_cons.mp hmem with rfl | hmem
          · exact absurd rfl hid
          · exact hmem
        have hkey : stored.id ≠ first.id := by
          rw [Table.find?_key hstored]
          exact fun h => hid h.symm
        have hsame : (Stmt.markTaskTimedOut first.id db.clock).onTask stored = stored := by
          simp [Stmt.onTask, hkey]
        rw [hsame] at hfind
        obtain ⟨after, hafter, hkept⟩ := hfirst.find hfind
        refine ih hrest hmem' hafter ?_
        rcases hkept with rfl | hdone
        · exact hlive
        · exact .inr hdone

theorem AgentTask.expired_live {task : AgentTask} {now : Int} (h : task.expired now = true) :
    task.status.isLive = true := by
  unfold AgentTask.expired at h
  cases hstatus : task.status with
  | queued => rfl
  | running => rfl
  | _ => simp [hstatus] at h

theorem sweepsAll_iff (db : Db) : SweepsAll db ↔ ExpiredNamesInstance db := by
  constructor
  · rintro ⟨hsweep, -⟩
    exact (sweep_succeeds_iff db).mp hsweep
  · intro hnames
    have hsweep := (sweep_succeeds_iff db).mpr hnames
    refine ⟨hsweep, ?_⟩
    intro task hmem hexpired
    have hserve : serve (timeOutTasks db.clock (db.agentTasks.rows.filter (·.expired db.clock))) db
        = (.ok (), (serve markTimedOutTasks db).2) := Prod.ext hsweep rfl
    have hstored : db.agentTasks.find? task.id = some task := Table.find?_of_mem hmem
    exact timeOutTasks_timedOut hserve (List.mem_filter.mpr ⟨hmem, hexpired⟩) hstored
      (.inl (AgentTask.expired_live hexpired))

/-- A sweep that succeeds leaves no expired task. -/
theorem noneExpired_of_sweep {db db' : Db} (hserve : serve markTimedOutTasks db = (.ok (), db')) :
    ∀ task ∈ db'.agentTasks.rows, task.expired db'.clock = false := by
  have hsweep : SweepsAll db := by
    rw [sweepsAll_iff, ← sweep_succeeds_iff, hserve]
  have hswept : Swept db db' := by
    have h := (uses_markTimedOutTasks (List.Subset.refl sweepWrites)).swept db
    rwa [hserve] at h
  intro task hmem
  by_contra hexpired
  rw [Bool.not_eq_false, hswept.clock] at hexpired
  have hlive := AgentTask.expired_live hexpired
  have hfind : db'.agentTasks.find? task.id = some task := Table.find?_of_mem hmem
  have hdone : task.status = .timedOut := by
    rcases hswept.tasks task.id with ⟨-, hnone⟩ | ⟨before, after, hbefore, hafter, hkept⟩
    · rw [hfind] at hnone
      cases hnone
    · obtain rfl := Option.some.inj (hfind.symm.trans hafter)
      rcases hkept with rfl | hdone
      · obtain ⟨after, hafter, hdone⟩ := hsweep.2 task (Table.find?_mem hbefore) hexpired
        rw [hserve] at hafter
        obtain rfl := Option.some.inj (hfind.symm.trans hafter)
        exact hdone
      · exact hdone
  rw [hdone] at hlive
  cases hlive

theorem expiredNamesInstance_of_sweep {db db' : Db}
    (hserve : serve markTimedOutTasks db = (.ok (), db')) : ExpiredNamesInstance db' := by
  intro task hmem hexpired
  rw [noneExpired_of_sweep hserve task hmem] at hexpired
  cases hexpired

/-! ### Polls -/

theorem serve_effectiveAgentConfig (nodeId : String) (db : Db) :
    ∃ config, serve (effectiveAgentConfig nodeId) db = (.ok config, db) :=
  ⟨_, rfl⟩

/-- What a poll's loop may end with: a stored task or a configuration. -/
def Selected (db : Db) : AgentTask ⊕ AgentConfig → Prop
  | .inl row => db.agentTasks.find? row.id = some row
  | .inr _ => True

/-- One round of the loop: the sweep, and the task that is queued then. -/
theorem serve_pollRound (nodeId : String) {db : Db} (hnames : ExpiredNamesInstance db)
    {rest : Handler (AgentTask ⊕ AgentConfig)}
    (hrest : ∀ db', ExpiredNamesInstance db' →
      ∃ outcome after, serve rest db' = (.ok outcome, after) ∧ Selected after outcome) :
    ∃ outcome after, serve (do
        markTimedOutTasks
        match ← nextQueuedAgentTask nodeId with
        | some row => pure (.inl row)
        | none => rest) db = (.ok outcome, after) ∧ Selected after outcome := by
  obtain ⟨db', hsweep⟩ : ∃ db', serve markTimedOutTasks db = (.ok (), db') :=
    ⟨_, Prod.ext ((sweep_succeeds_iff db).mpr hnames) rfl⟩
  rw [serve_bind_ok hsweep]
  have hnames' := expiredNamesInstance_of_sweep hsweep
  have hquery : ∃ queued, serve (nextQueuedAgentTask nodeId) db' = (.ok queued, db') := ⟨_, rfl⟩
  obtain ⟨queued, hqueued⟩ := hquery
  rw [serve_bind_ok hqueued]
  cases queued with
  | some row =>
      have hrow := (nextQueued_spec (Except.ok.inj (congrArg Prod.fst hqueued))).1
      exact ⟨.inl row, db', rfl, Table.find?_of_mem hrow⟩
  | none => exact hrest db' hnames'

theorem serve_pollLoop_selects (nodeId : String) (version : Option Int) (waits : List Bool) {db : Db}
    (hnames : ExpiredNamesInstance db) :
    ∃ outcome after, serve (pollLoop nodeId version waits) db = (.ok outcome, after)
      ∧ Selected after outcome := by
  induction waits generalizing db with
  | nil => exact serve_pollRound nodeId hnames fun db' _ => ⟨_, db', rfl, trivial⟩
  | cons notified waits ih =>
      refine serve_pollRound nodeId hnames fun db' hnames' => ?_
      cases notified with
      | false => exact ih hnames'
      | true =>
          obtain ⟨config, hconfig⟩ := serve_effectiveAgentConfig nodeId db'
          obtain ⟨next, hnext⟩ : ∃ next, serve (nextQueuedAgentTask nodeId) db' = (.ok next, db') :=
            ⟨_, rfl⟩
          rw [if_pos rfl, serve_bind_ok hconfig, serve_bind_ok hnext]
          by_cases hnew : (next.isNone && version.any (· ≠ config.configVersion)) = true
          · rw [if_pos hnew]
            exact ⟨_, db', rfl, trivial⟩
          · rw [if_neg hnew]
            exact ih hnames'

theorem serve_markDispatched (task : AgentTask) (now : Int) (db : Db) :
    ∃ db', serve (markDispatched task now) db = (.ok (), db') := by
  unfold markDispatched
  split
  · cases task.payloadJson.getStr "model_file_id" with
    | none => exact ⟨db, rfl⟩
    | some fileId => exact ⟨_, rfl⟩
  · cases task.payloadJson.getStr "trash_id" with
    | none => exact ⟨db, rfl⟩
    | some trashId => exact ⟨_, rfl⟩
  · exact ⟨db, rfl⟩

/-- A stored task that has been selected is handed out. -/
theorem serve_dispatchAgentTask (nodeId : String) {row : AgentTask} {db : Db}
    (hstored : db.agentTasks.find? row.id = some row) :
    ∃ response, (serve (dispatchAgentTask nodeId row) db).1 = .ok response := by
  have hclaim : serve (execute (.claimAgentTask row db.clock (db.clock + agentTaskLeaseSecs)) :
      Handler Unit) db
        = (.ok (), ((Stmt.claimAgentTask row db.clock (db.clock + agentTaskLeaseSecs)).exec db).2) :=
    rfl
  unfold dispatchAgentTask
  rw [serve_bind_ok (serve_nowUnixSecs db)]
  refine (congrArg (fun served => ∃ response, served.1 = .ok response)
    (serve_bind_ok hclaim _)).mpr ?_
  obtain ⟨db', hmark⟩ := serve_markDispatched row db.clock
    ((Stmt.claimAgentTask row db.clock (db.clock + agentTaskLeaseSecs)).exec db).2
  have hclaimed : TaskNames ((Stmt.claimAgentTask row db.clock
      (db.clock + agentTaskLeaseSecs)).exec db).2 row.id row.entity :=
    taskNames_exec _ ⟨row, hstored, rfl⟩
  have hnames := taskNames_serve (markDispatched row db.clock) hclaimed
  rw [hmark] at hnames
  obtain ⟨task, htask, -⟩ := hnames
  have htask' : db'.agentTasks.find? row.id = some task := htask
  obtain ⟨config, hconfig⟩ := serve_effectiveAgentConfig nodeId db'
  rw [serve_bind_ok hmark, serve_bind_ok (serve_query _ db'), htask',
    serve_bind_ok (serve_required_some rowNotFound task db'), serve_bind_ok hconfig]
  exact ⟨_, rfl⟩

theorem serve_pollAgentTask (nodeId : String) (version : Option Int) (waits : List Bool) {db : Db}
    (hnames : ExpiredNamesInstance db) :
    ∃ response, (serve (pollAgentTask nodeId version waits) db).1 = .ok response := by
  obtain ⟨outcome, after, hloop, hselected⟩ := serve_pollLoop_selects nodeId version waits hnames
  unfold pollAgentTask
  rw [serve_bind_ok hloop]
  cases outcome with
  | inr config => exact ⟨_, rfl⟩
  | inl row => exact serve_dispatchAgentTask nodeId hselected

/-! ### Reads of files -/

/-- The sweep and the expiry on reading leave every file where it is. -/
def FilesThere (db db' : Db) : Prop :=
  ∀ id file, db.modelFiles.find? id = some file →
    ∃ file', db'.modelFiles.find? id = some file' ∧ file'.deletedAt = file.deletedAt

theorem filesThere_update {db db' : Db} {id : String} {f : ModelFile → ModelFile}
    (hid : ∀ file, (f file).id = file.id) (hdeleted : ∀ file, (f file).deletedAt = file.deletedAt)
    (h : db'.modelFiles = db.modelFiles.update id f hid) : FilesThere db db' := by
  intro id' file hfile
  have hfind := Table.find?_update db.modelFiles id f hid id'
  rw [← h] at hfind
  by_cases hsame : id' = id
  · rw [if_pos hsame, hfile] at hfind
    exact ⟨f file, hfind, hdeleted file⟩
  · rw [if_neg hsame, hfile] at hfind
    exact ⟨file, hfind, rfl⟩

theorem filesThere_exec {stmt : Stmt} (h : stmt.Among sweepWrites) (db : Db) :
    FilesThere db (stmt.exec db).2 := by
  have hsame : ∀ {db' : Db}, db'.modelFiles = db.modelFiles → FilesThere db db' := by
    intro db' heq id file hfile
    exact ⟨file, by rw [heq, hfile], rfl⟩
  cases stmt with
  | select query => exact hsame rfl
  | markTaskTimedOut taskId now => exact hsame rfl
  | updateTrashFailure trashId status message now => exact hsame rfl
  | updateInstanceCheck instanceId status error now => exact hsame rfl
  | setFileVerifyTimeout fileId now =>
      exact filesThere_update (f := (·.verifyTimeout now)) (fun _ => rfl) (fun _ => rfl) rfl
  | _ => exact absurd (h _ rfl) (by decide)

theorem Uses.filesThere {α : Type} {h : Handler α} (huses : Uses sweepWrites h) (db : Db) :
    FilesThere db (serve h db).2 := by
  refine Program.Performs.run_rel (R := FilesThere) ?_ ?_ (fun _ db => (filesThere_exec · db)) huses db
  · intro db id file hfile
    exact ⟨file, hfile, rfl⟩
  · intro db db' db'' h h' id file hfile
    obtain ⟨file', hfile', hdeleted⟩ := h id file hfile
    obtain ⟨file'', hfile'', hdeleted'⟩ := h' id file' hfile'
    exact ⟨file'', hfile'', hdeleted'.trans hdeleted⟩

theorem serve_expireModelFiles (now : Int) (rows : List JoinedModelFile) (db : Db) :
    ∃ db', serve (expireModelFiles now rows) db = (.ok (), db') := by
  induction rows generalizing db with
  | nil => exact ⟨db, rfl⟩
  | cons row rows ih =>
      unfold expireModelFiles
      split
      · have hexpire : serve (execute (.expireModelFile row.file now) : Handler Unit) db
            = (.ok (), ((Stmt.expireModelFile row.file now).exec db).2) := rfl
        obtain ⟨db', hrest⟩ := ih ((Stmt.expireModelFile row.file now).exec db).2
        exact ⟨db', (serve_bind_ok hexpire _).trans hrest⟩
      · exact ih db

/-- The rows that the read of a file selects. -/
def Db.readRows (db : Db) (id : String) : List JoinedModelFile :=
  ((db.modelFiles.rows.filter fun file =>
    (none : Option String).all (file.modelId = ·) && (some id).all (file.id = ·)
      && file.deletedAt.isNone).map (joinModelFile db)).mergeSort JoinedModelFile.before

theorem readRows_eq_nil_iff {db : Db} {id : String} :
    db.readRows id = [] ↔ ∀ file, db.modelFiles.find? id = some file → file.deletedAt ≠ none := by
  have hlength : (db.readRows id).length = (db.modelFiles.rows.filter fun file =>
      (none : Option String).all (file.modelId = ·) && (some id).all (file.id = ·)
        && file.deletedAt.isNone).length := by
    unfold Db.readRows
    rw [List.length_mergeSort, List.length_map]
  rw [← List.length_eq_zero_iff, hlength, List.length_eq_zero_iff, List.filter_eq_nil_iff]
  simp only [Option.all_none, Option.all_some, Bool.true_and, Bool.and_eq_true, decide_eq_true_eq,
    Option.isNone_iff_eq_none, not_and]
  constructor
  · intro h file hfile
    exact h file (Table.find?_mem hfile) (Table.find?_key hfile)
  · rintro h file hmem rfl
    exact h file (Table.find?_of_mem hmem)

/-- A read whose sweep goes through ends with an error exactly if it selects no row. -/
theorem serve_modelFile_of_sweep {db db' : Db} (hsweep : serve markTimedOutTasks db = (.ok (), db'))
    (id : String) :
    (db'.readRows id = [] ∧ serve (modelFile id) db = (.error (.notFound "model file not found"), db'))
      ∨ db'.readRows id ≠ [] ∧ ∃ view, (serve (modelFile id) db).1 = .ok view := by
  obtain ⟨db'', hexpire⟩ := serve_expireModelFiles db'.clock (db'.readRows id) db'
  have hread : serve (query fun db => db.readRows id) db' = (.ok (db'.readRows id), db') := rfl
  have hrows : serve (modelFileRows none (some id)) db = (.ok (db'.readRows id), db'') := by
    unfold modelFileRows
    rw [serve_bind_ok hsweep, serve_bind_ok (serve_nowUnixSecs db')]
    refine (serve_bind_ok hread _).trans ?_
    rw [serve_bind_ok hexpire]
    rfl
  unfold modelFile
  rw [serve_bind_ok hrows]
  cases hselected : db'.readRows id with
  | nil =>
      rw [hselected] at hexpire
      have hsame : db' = db'' := congrArg Prod.snd hexpire
      rw [← hsame]
      exact .inl ⟨rfl, rfl⟩
  | cons row rows => exact .inr ⟨List.cons_ne_nil row rows, _, rfl⟩

theorem serve_modelFile {db : Db} (hnames : ExpiredNamesInstance db) {id : String}
    {file : ModelFile} (hfile : db.modelFiles.find? id = some file) (hlive : file.deletedAt = none) :
    ∃ view, (serve (modelFile id) db).1 = .ok view := by
  obtain ⟨db', hsweep⟩ : ∃ db', serve markTimedOutTasks db = (.ok (), db') :=
    ⟨_, Prod.ext ((sweep_succeeds_iff db).mpr hnames) rfl⟩
  have hthere := (uses_markTimedOutTasks (List.Subset.refl sweepWrites)).filesThere db
  rw [hsweep] at hthere
  obtain ⟨file', hfile', hdeleted⟩ := hthere id file hfile
  rcases serve_modelFile_of_sweep hsweep id with ⟨hnone, -⟩ | ⟨-, hok⟩
  · exact absurd (hdeleted.trans hlive) (readRows_eq_nil_iff.mp hnone file' hfile')
  · exact hok

/-- With nothing to time out a read of a live file changes nothing. -/
theorem serve_modelFile_quiet {db : Db} (hsweep : serve markTimedOutTasks db = (.ok (), db))
    {id : String} {file : ModelFile} (hfile : db.modelFiles.find? id = some file)
    (hlive : file.deletedAt = none) (hsettled : file.status ≠ "verifying") :
    serve (modelFile id) db = (.ok (modelFileFromRow db.clock (joinModelFile db file)), db) := by
  have hrows : db.readRows id = [joinModelFile db file] := by
    have hselected : (db.modelFiles.rows.filter fun file =>
        (none : Option String).all (file.modelId = ·) && (some id).all (file.id = ·)
          && file.deletedAt.isNone) = [file] := by
      have hsplit : (fun file : ModelFile =>
          (none : Option String).all (file.modelId = ·) && (some id).all (file.id = ·)
            && file.deletedAt.isNone) = fun file => file.deletedAt.isNone && decide (file.id = id) := by
        funext file
        exact Bool.and_comm _ _
      rw [hsplit, ← List.filter_filter, Table.filter_key db.modelFiles id, hfile]
      simp [hlive]
    unfold Db.readRows
    rw [hselected]
    exact List.mergeSort_singleton _
  have hread : serve (query fun db => db.readRows id) db = (.ok (db.readRows id), db) := rfl
  have hexpire : serve (expireModelFiles db.clock [joinModelFile db file]) db = (.ok (), db) := by
    have hstatus : (joinModelFile db file).file.status ≠ "verifying" := hsettled
    unfold expireModelFiles
    rw [if_neg (by simp [hstatus])]
    rfl
  have hserved : serve (modelFileRows none (some id)) db = (.ok [joinModelFile db file], db) := by
    unfold modelFileRows
    rw [serve_bind_ok hsweep, serve_bind_ok (serve_nowUnixSecs db)]
    refine (serve_bind_ok hread _).trans ?_
    rw [hrows, serve_bind_ok hexpire]
    rfl
  unfold modelFile
  rw [serve_bind_ok hserved]
  rfl

/-! ### When timeouts are contained -/

theorem readsSucceed_of_expiredNamesInstance {db : Db} (hnames : ExpiredNamesInstance db) :
    ReadsSucceed db :=
  ⟨fun nodeId version waits => serve_pollAgentTask nodeId version waits hnames,
    fun _ _ hfile hlive => serve_modelFile hnames hfile hlive⟩

theorem timeoutsContained_iff (db : Db) : TimeoutsContained db ↔ ExpiredNamesInstance db := by
  unfold TimeoutsContained
  rw [sweepsAll_iff]
  exact and_iff_left_of_imp readsSucceed_of_expiredNamesInstance

/-- In a run of the server the timeouts are contained in every state, exactly if in every state an expired
task names an instance that is there. -/
theorem timeouts_contained_always_iff (deps : External) (db : Db) (events : List ServerEvent) :
    Trace.Always (server deps).apply (fun c => TimeoutsContained c.shared) { shared := db } events ↔
      Trace.Always (server deps).apply (fun c => ExpiredNamesInstance c.shared) { shared := db }
        events := by
  constructor
  · intro h pre post hsplit
    exact (timeoutsContained_iff _).mp (h pre post hsplit)
  · intro h pre post hsplit
    exact (timeoutsContained_iff _).mpr (h pre post hsplit)

/-! ### An instance deleted before its start is polled

A start is enqueued, and before the agent polls for it the heartbeat leaves the instance failed, so that
it can be deleted. -/

def abandonedStart : List ServerEvent :=
  .spawn (.startModelInstance "i" "t" 0) :: List.replicate 9 (.step 0) ++ [.drop 0]
    ++ .spawn (.recordHeartbeat { nodeId := "n", sampledAt := 1000 }) :: List.replicate 2 (.step 1)
    ++ .spawn (.deleteModelInstance "i") :: List.replicate 3 (.step 2)
    ++ [.env (.tick 1301)]

theorem deleted_instance_stops_sweep :
    ¬ Trace.Always (server noExternal).apply (fun c => TimeoutsContained c.shared)
      { shared := { vllmDb with agentTasks := .empty } } abandonedStart := by
  intro hcontained
  obtain ⟨-, hpolls, -⟩ := hcontained abandonedStart [] (List.append_nil _).symm
  obtain ⟨response, hpoll⟩ := hpolls "other" none []
  have herror : (serve (pollAgentTask "other" none []) (Trace.run (server noExternal).apply
      { shared := { vllmDb with agentTasks := .empty } } abandonedStart).shared).1
        = .error (.notFound "model instance not found") := by rfl
  rw [herror] at hpoll
  cases hpoll

end LightAI.Server
