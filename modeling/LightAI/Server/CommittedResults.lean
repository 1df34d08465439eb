import LightAI.Base.Threadwise
import LightAI.Server.PlainTasks
import LightAI.Server.TimeoutTargets

/-!
# Results that are written

The transaction that records a result is undone if the payload of the task does not name the row that a
result of its kind is for, and would write nothing if the task were gone. Neither comes about: each request
that enqueues a task puts that name into the payload, and no statement takes it out or deletes a task. This
holds however the statements of the requests are interleaved, and so an agent's report on a task of its node
is always written.
-/

namespace LightAI.Server

open Interleaving

/-- The result of every stored task can be written. -/
def AllCommit (db : Db) : Prop :=
  ∀ id task, db.agentTasks.find? id = some task → task.resultCommits = true

def Db.hasTask (db : Db) (id : String) : Prop := (db.agentTasks.find? id).isSome = true

/-- What a request relies on while it is under way. -/
structure CommitRely (db db' : Db) : Prop where
  commit : AllCommit db'
  stays : ∀ id, db.hasTask id → db'.hasTask id

/-- A task that is enqueued can be finished, and a result is recorded for a stored task that can be. -/
structure Stmt.Commits (stmt : Stmt) (db : Db) : Prop where
  enqueued : ∀ task, stmt.enqueues = some task → task.resultCommits = true
  recorded : ∀ selected status result now, stmt = .recordResult selected status result now →
    selected.resultCommits = true ∧ db.hasTask selected.id

/-! ### Statements -/

theorem onTask_resultCommits (stmt : Stmt) (task : AgentTask) :
    (stmt.onTask task).resultCommits = task.resultCommits := by
  unfold AgentTask.resultCommits
  rw [onTask_kind, onTask_payloadJson]

theorem hasTask_exec (stmt : Stmt) {db : Db} {id : String} (h : db.hasTask id) :
    (stmt.exec db).2.hasTask id := by
  obtain ⟨task, htask⟩ := Option.isSome_iff_exists.mp h
  unfold Db.hasTask
  rw [find?_exec_of_some stmt htask]
  rfl

theorem allCommit_exec {stmt : Stmt} {db : Db}
    (hnew : ∀ task, stmt.enqueues = some task → task.resultCommits = true) (hall : AllCommit db) :
    AllCommit (stmt.exec db).2 := by
  intro id task hfind
  rcases exec_agentTasks stmt db with ⟨new, henqueues, hinsert⟩ | heach
  · rw [Table.find?_insert? hinsert] at hfind
    by_cases hid : id = new.id
    · rw [if_pos hid] at hfind
      rw [← Option.some.inj hfind]
      exact hnew new henqueues
    · rw [if_neg hid] at hfind
      exact hall id task hfind
  · rw [heach id] at hfind
    obtain ⟨before, hbefore, rfl⟩ := Option.map_eq_some_iff.mp hfind
    rw [onTask_resultCommits]
    exact hall id before hbefore

theorem commitRely_exec (stmt : Stmt) {db : Db} (hall : AllCommit db) (hcommits : stmt.Commits db) :
    CommitRely db (stmt.exec db).2 where
  commit := allCommit_exec hcommits.enqueued hall
  stays _ := hasTask_exec stmt

/-- A result that commits is stored with its task. -/
theorem stored_of_recordResult {selected : AgentTask} {status : ResultStatus} {result : Json} {now : Int}
    {db : Db} (hcommits : (Stmt.recordResult selected status result now).Commits db) :
    ((Stmt.recordResult selected status result now).exec db).1 = .ok true ∧
      ∃ task, db.agentTasks.find? selected.id = some task ∧
        ((Stmt.recordResult selected status result now).exec db).2.agentTasks.find? selected.id
          = some (task.finish status result now) := by
  obtain ⟨hresult, hstored⟩ := hcommits.recorded selected status result now rfl
  obtain ⟨task, htask⟩ := Option.isSome_iff_exists.mp hstored
  refine ⟨?_, task, htask, ?_⟩
  · simp only [Stmt.exec, applyTaskResult_eq, hresult, if_true]
    rfl
  · rw [find?_exec_of_some _ htask]
    have hid : task.id = selected.id := Table.find?_key htask
    exact congrArg some (if_pos ⟨hid, hresult⟩)

/-! ### Requests -/

section Committing

variable {α β : Type}

/-- Whatever the other requests do within `CommitRely`, the handler's statements commit. -/
def Committing (h : Handler α) : Prop :=
  ∀ done db, Safe CommitRely (fun _ db stmt => stmt.Commits db) (fun _ _ _ => True) done db h

theorem commits_of_enqueues {stmt : Stmt} {db : Db} (hwrites : stmt.Among quietWrites) : stmt.Commits db where
  enqueued task henqueues := by
    cases stmt with
    | insertAgentTask task => exact absurd (hwrites _ rfl) (by decide)
    | enqueueInstanceTask task id status now => exact absurd (hwrites _ rfl) (by decide)
    | enqueueFileVerification task id message now => exact absurd (hwrites _ rfl) (by decide)
    | _ => cases henqueues
  recorded selected status result now hstmt := by
    subst hstmt
    exact absurd (hwrites _ rfl) (by decide)

theorem committing_bind {h : Handler α} {f : α → Handler β} (hh : Committing h)
    (hf : ∀ a, Committing (f a)) : Committing (h >>= f) := by
  intro done db
  exact safe_bind (fun _ _ _ => True) (hh done db) (fun _ _ _ _ => trivial)
    fun done db a _ => hf a done db

theorem composes_committing : Composes (fun _ h => Committing h) quietWrites where
  uses huses := fun _ _ =>
    huses.safe (fun _ _ => True) (fun _ _ _ _ _ => trivial)
      (fun _ _ _ _ hamong => ⟨commits_of_enqueues hamong, trivial⟩) trivial
  bind := committing_bind

theorem committing_enqueue {stmt : Stmt} (hcommits : ∀ task, stmt.enqueues = some task →
      task.resultCommits = true) (hsome : stmt.enqueues.isSome = true) : Committing (execute stmt) := by
  intro done db
  refine safe_execute (fun db' _ => ⟨hcommits, fun selected status result now hstmt => ?_⟩) fun _ _ => trivial
  rw [hstmt] at hsome
  cases hsome

theorem enqueues_committing :
    Enqueues (fun _ h => Committing h) quietWrites (fun _ => True) where
  toComposes := composes_committing
  now hf := composes_committing.reads_bind uses_nowUnixSecs fun now => hf now trivial
  insert task _ _ hcommits := by
    refine committing_enqueue (fun row henqueues => ?_) rfl
    rwa [← Option.some.inj henqueues]

theorem resultCommits_of_instance {task : AgentTask} (hid : (task.payloadJson.getStr "instance_id").isSome = true)
    (hkind : task.kind.isInstanceTask = true) : task.resultCommits = true := by
  unfold AgentTask.resultCommits
  cases hcase : task.kind <;> rw [hcase] at hkind <;> first
    | exact hid
    | cases hkind

theorem committing_enqueueLocalInstanceTask (deps : External) (id : String) {kind : TaskKind}
    (hkind : kind.isInstanceTask = true) (pendingStatus taskId : String) :
    Committing (enqueueLocalInstanceTask deps id kind pendingStatus taskId) := by
  have hP := composes_committing
  apply hP.reads_bind (uses_modelInstance id)
  intro row
  apply hP.reads_bind (uses_rejectIf _ _)
  intro _
  apply hP.reads_bind (uses_required _ _)
  intro nodeId
  apply hP.reads_bind (uses_nodeOnline nodeId)
  intro online
  apply hP.reads_bind (uses_rejectIf _ _)
  intro _
  apply hP.reads_bind (uses_required _ _)
  intro envId
  apply hP.reads_bind (uses_runtimeEnvironment envId)
  intro env
  apply hP.reads_bind (uses_rejectIf _ _)
  intro _
  apply hP.reads_bind (uses_checked _)
  intro params
  apply hP.reads_bind uses_nowUnixSecs
  intro now
  apply hP.reads_bind (uses_instanceTaskFile row env)
  intro file
  apply committing_bind (committing_enqueue (fun task henqueues => ?_) rfl)
  · intro accepted
    exact hP.reads (uses_inserted accepted)
  · rw [← Option.some.inj henqueues]
    apply resultCommits_of_instance _ hkind
    change ((completePayload _ _ _).getStr "instance_id").isSome = true
    rw [getStr_completePayload _ _ _ (by decide) (by decide), getStr_instancePayload]
    rfl

theorem committing_queueModelFileVerification (id taskId : String) :
    Committing (queueModelFileVerification id taskId) := by
  have hP := composes_committing
  have hread : Committing (modelFile id) := hP.uses (uses_modelFile (by decide) id)
  apply committing_bind hread
  intro file
  apply hP.reads_bind uses_nowUnixSecs
  intro now
  apply hP.reads_bind (uses_nodeOnline file.nodeId)
  intro online
  apply committing_bind (committing_enqueue (fun task henqueues => ?_) rfl)
  · intro accepted
    exact hP.reads_bind (uses_inserted accepted) fun _ => hread
  · rw [← Option.some.inj henqueues]
    rfl

theorem committing_beginCleanup (id taskId : String) : Committing (beginCleanup id taskId) := by
  have hP := composes_committing
  apply hP.reads_bind (uses_modelFileTrashItem id)
  intro item
  apply hP.reads_bind (uses_required _ _)
  intro nodeId
  split
  · exact hP.reads (uses_pure _)
  apply hP.reads_bind (uses_nodeOnline nodeId)
  intro online
  split
  · apply hP.reads_bind uses_nowUnixSecs
    intro now
    apply committing_bind (committing_enqueue (fun task henqueues => ?_) rfl)
    · intro accepted
      apply hP.reads_bind (uses_inserted accepted)
      intro _
      exact committing_bind (hP.uses (uses_execute rfl (by decide))) fun _ => hP.reads (uses_pure _)
    · rw [← Option.some.inj henqueues]
      rfl
  · exact committing_bind (hP.uses (uses_updateTrashFailure (by decide) id _ _)) fun _ =>
      hP.reads (uses_throw _)

end Committing

/-! ### The report on a task -/

/-- No result has been recorded since `before`. -/
def NoneRecorded (before done : List Stmt) : Prop :=
  ∀ selected status result now, Stmt.recordResult selected status result now ∈ done →
    Stmt.recordResult selected status result now ∈ before

theorem NoneRecorded.select {before done : List Stmt} (h : NoneRecorded before done) {β : Type}
    (q : Db → β) : NoneRecorded before (.select q :: done) := by
  intro selected status result now hmem
  rcases List.mem_cons.mp hmem with heq | hmem
  · cases heq
  · exact h selected status result now hmem

theorem commits_select {β : Type} (q : Db → β) (db : Db) : (Stmt.select q).Commits db where
  enqueued task henqueues := by cases henqueues
  recorded selected status result now hstmt := by cases hstmt

/-- How a report may be answered, and what has been done for it then. -/
def ReportAnswered {α : Type} (request : AgentTaskResultRequest) (before done : List Stmt) :
    Except DomainError α → Prop
  | .ok _ => ∃ selected status now, resultStatus request.status = some status ∧
      selected.nodeId = request.nodeId ∧ .recordResult selected status request.result now ∈ done
  | .error e => NoneRecorded before done ∧ (e = .notFound "agent task not found" ∨
      e = .badRequest "status is invalid" ∧ resultStatus request.status = none)

/-- The task that a report has found. -/
structure Reported (request : AgentTaskResultRequest) (db : Db) (task : AgentTask) : Prop where
  commits : task.resultCommits = true
  stored : db.hasTask task.id
  node : task.nodeId = request.nodeId

theorem Reported.later {request : AgentTaskResultRequest} {db db' : Db} {task : AgentTask}
    (h : Reported request db task) (hrely : CommitRely db db') : Reported request db' task where
  commits := h.commits
  stored := hrely.stays task.id h.stored
  node := h.node

theorem Reported.commits_recordResult {request : AgentTaskResultRequest} {db : Db} {task : AgentTask}
    (h : Reported request db task) (status : ResultStatus) (now : Int) :
    (Stmt.recordResult task status request.result now).Commits db where
  enqueued task henqueues := by cases henqueues
  recorded selected status result now hstmt := by
    cases hstmt
    exact ⟨h.commits, h.stored⟩

/-- A report finds its task or not, its status is one of two or not, and the rest cannot fail. -/
theorem safe_recordAgentTaskResult (taskId : String) (request : AgentTaskResultRequest)
    (before : List Stmt) (db : Db) : Safe CommitRely (fun _ db stmt => stmt.Commits db)
      (fun done _ outcome => ReportAnswered request before done outcome) before db
      (recordAgentTaskResult taskId request) := by
  have hnone : NoneRecorded before before := fun _ _ _ _ hmem => hmem
  unfold recordAgentTaskResult
  refine safe_bind (fun done db outcome => NoneRecorded before done ∧ ∃ found, outcome = .ok found ∧
    ∀ task, found = some task → Reported request db task) ?_ ?_ ?_
  · refine safe_query (fun done db q => commits_select q db) fun db' hrely => ?_
    refine ⟨hnone.select _, _, rfl, fun task hfound => ?_⟩
    obtain ⟨hfind, hnode⟩ := Option.filter_eq_some_iff.mp hfound
    have hkey : task.id = taskId := Table.find?_key hfind
    refine ⟨hrely.commit taskId task hfind, ?_, of_decide_eq_true hnode⟩
    unfold Db.hasTask
    rw [hkey, hfind]
    rfl
  · rintro done db e ⟨hdone, found, heq, -⟩
    cases heq
  rintro done db found ⟨hdone, _, heq, hfound⟩
  obtain rfl := Except.ok.inj heq
  cases found with
  | none => exact safe_throw ⟨hdone, .inl rfl⟩
  | some task =>
      have htask := hfound task rfl
      cases hstatus : resultStatus request.status with
      | none => exact safe_throw ⟨hdone, .inr ⟨rfl, hstatus⟩⟩
      | some status =>
          change Safe CommitRely _ _ done db (do
            let now ← nowUnixSecs
            let outcome : Except DomainError Bool ← execute (.recordResult task status request.result now)
            let _ ← checked outcome
            pure ())
          refine safe_bind (fun done db outcome => (∃ now, outcome = .ok now) ∧ Reported request db task)
            ?_ ?_ ?_
          · refine safe_query (fun done db q => commits_select q db) fun db' hrely => ?_
            exact ⟨⟨_, rfl⟩, htask.later hrely⟩
          · rintro done db e ⟨⟨now, heq⟩, -⟩
            cases heq
          rintro done db now ⟨-, hstill⟩
          have hcommits : ∀ db', CommitRely db db' →
              (Stmt.recordResult task status request.result now).Commits db' :=
            fun db' hrely => (hstill.later hrely).commits_recordResult status now
          have hrecords : Safe CommitRely (fun _ db stmt => stmt.Commits db)
              (fun done _ outcome => outcome = .ok (.ok true) ∧
                .recordResult task status request.result now ∈ done) done db
              (execute (.recordResult task status request.result now)) := by
            refine safe_execute hcommits fun db' hrely => ⟨?_, List.mem_cons_self⟩
            rw [(stored_of_recordResult (hcommits db' hrely)).1]
          refine safe_bind _ hrecords ?_ ?_
          · rintro done db e ⟨heq, -⟩
            cases heq
          rintro done db outcome ⟨heq, hrecorded⟩
          obtain rfl := Except.ok.inj heq
          exact ⟨task, status, now, hstatus, htask.node, hrecorded⟩

/-- Whatever the other requests do, the statements of a request commit. -/
theorem committing_handler (deps : External) (request : Request) : Committing (request.handler deps) := by
  have hbegin : Committing (request.begin deps) := by
    refine enqueues_committing.begin (List.Subset.refl _) deps (fun id kind pendingStatus taskId hkind => ?_)
      committing_queueModelFileVerification committing_beginCleanup (fun taskId request => ?_) request
    · exact committing_enqueueLocalInstanceTask deps id hkind pendingStatus taskId
    · intro done db
      exact (safe_recordAgentTaskResult taskId request done db).mono fun _ _ _ _ => trivial
  rw [handler_eq_begin_finish]
  apply committing_bind hbegin
  intro response
  cases response with
  | some response => exact composes_committing.reads (uses_pure response)
  | none => exact composes_committing.uses (quiet_finish request)

/-! ### Runs -/

/-- What the answer of a request says, which is looked at for the reports on tasks. -/
def Answers : Request → List Stmt → Outcome → Prop
  | .recordAgentTaskResult _ request, done, outcome => ReportAnswered request [] done outcome
  | _, _, _ => True

theorem answers_handler (deps : External) (request : Request) (db : Db) :
    (request.handler deps).run.Robust Stmt.exec CommitRely (fun _ db stmt => stmt.Commits db)
      (fun done _ outcome => Answers request done outcome) [] db := by
  have hother := committing_handler deps request [] db
  cases request
  case recordAgentTaskResult taskId request =>
      refine safe_bind _ (safe_recordAgentTaskResult taskId request [] db) ?_ ?_
      · intro done db e h
        exact h
      · intro done db _ h
        exact h
  all_goals exact hother

/-- What holds in every state of a run that starts without tasks. -/
abbrev Reporting (deps : External) (c : ServerConfig) : Prop :=
  System.Threadwise (fun _ db => AllCommit db)
    (System.RobustAs (server deps) CommitRely (fun _ db stmt => stmt.Commits db) Answers) () c

theorem reporting_apply (deps : External) (c : ServerConfig) (e : ServerEvent) (h : Reporting deps c) :
    Reporting deps ((server deps).apply c e) := by
  refine System.threadwise_robustAs ?_ ?_ ?_ ?_ ?_ c e h
  · intro db db' db'' hfirst hthen
    exact ⟨hthen.commit, fun id hid => hthen.stays id (hfirst.stays id hid)⟩
  · intro db hall
    exact ⟨hall, fun _ hid => hid⟩
  · intro done stmt db hall hcommits
    exact ⟨allCommit_exec hcommits.enqueued hall, commitRely_exec stmt hall hcommits⟩
  · intro action db hall
    cases action <;> exact ⟨hall, hall, fun _ hid => hid⟩
  · intro request db _
    exact answers_handler deps request db

/-- A result that is recorded now is stored with its task, and the reports that have been answered were
answered as they may be. -/
structure ReportsStored (deps : External) (c : ServerConfig) : Prop where
  stored : ∀ (e : ServerEvent) t selected status result now,
    System.performed c e = some (t, .recordResult selected status result now) →
    ∃ task, c.shared.agentTasks.find? selected.id = some task ∧
      ((server deps).apply c e).shared.agentTasks.find? selected.id = some (task.finish status result now)
  answered : ∀ t ∈ c.threads, ∀ taskId request outcome, t.request = .recordAgentTaskResult taskId request →
    t.result = some outcome → ReportAnswered request [] t.done outcome

theorem reportsStored_of_reporting {deps : External} {c : ServerConfig} (h : Reporting deps c) :
    ReportsStored deps c where
  stored e t selected status result now hperf := by
    have hrefl : ∀ db, AllCommit db → CommitRely db db := fun db hall => ⟨hall, fun _ hid => hid⟩
    have hcommits : (Stmt.recordResult selected status result now).Commits c.shared :=
      h.permitted hrefl hperf
    rcases System.apply_shared (M := server deps) c e with
      ⟨t', stmt, hperf', hshared⟩ | ⟨hnone, -⟩ | ⟨hnone, -⟩
    · rw [hperf] at hperf'
      obtain ⟨-, rfl⟩ := Prod.mk.inj (Option.some.inj hperf')
      rw [hshared]
      exact (stored_of_recordResult hcommits).2
    · rw [hperf] at hnone
      cases hnone
    · rw [hperf] at hnone
      cases hnone
  answered t ht taskId request outcome hrequest hresult := by
    have hanswers := h.answer ht hresult
    rwa [hrequest] at hanswers

/-- In every run that starts without tasks, however the statements of the requests are interleaved, a result
that is recorded is stored with its task, and a report is answered with an error only if it has recorded
nothing: its task was none of its node, or its status none of the two. -/
theorem always_reportsStored (deps : External) (db : Db) (events : List ServerEvent) :
    Trace.Always (server deps).apply (ReportsStored deps)
      { shared := { db with agentTasks := .empty } } events := by
  have hinit : Reporting deps { shared := { db with agentTasks := .empty } } := by
    apply System.threadwise_start
    intro id task hfind
    cases hfind
  exact Trace.always_of_invariant (fun c e h _ => reporting_apply deps c e h)
    (fun c => reportsStored_of_reporting) hinit (Trace.along_of_forall (fun _ _ => trivial) _ events)

end LightAI.Server
