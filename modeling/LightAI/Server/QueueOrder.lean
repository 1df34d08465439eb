import LightAI.Base.Potential
import LightAI.Server.MovedFiles

/-!
# The queue of a node

A poll hands out the oldest of the tasks that are queued for its node. A task that is queued is therefore
passed only by tasks that were queued before it, each of them once, so that the polls that are answered
while it is queued number at most one more than the tasks it found there. Tasks that are enqueued later do
not count: they carry a later time. The order in which the rows of one second are read is left open.
-/

namespace LightAI.Server

/-- The tasks that are queued for the node of `task` and are not younger. -/
def Db.ahead (db : Db) (task : AgentTask) : Finset String :=
  ((db.agentTasks.rows.filter fun other => other.status = .queued && other.nodeId = task.nodeId
    && other.createdAt ≤ task.createdAt).map (·.id)).toFinset

theorem mem_ahead {db : Db} {task : AgentTask} {id : String} :
    id ∈ db.ahead task ↔ ∃ other, db.agentTasks.find? id = some other ∧ other.status = .queued
      ∧ other.nodeId = task.nodeId ∧ other.createdAt ≤ task.createdAt := by
  simp only [Db.ahead, List.mem_toFinset, List.mem_map, List.mem_filter, Bool.and_eq_true,
    decide_eq_true_eq]
  constructor
  · rintro ⟨other, ⟨hmem, ⟨hqueued, hnode⟩, hcreated⟩, rfl⟩
    exact ⟨other, Table.find?_of_mem hmem, hqueued, hnode, hcreated⟩
  · rintro ⟨other, hfind, hqueued, hnode, hcreated⟩
    exact ⟨other, ⟨Table.find?_mem hfind, ⟨hqueued, hnode⟩, hcreated⟩, Table.find?_key hfind⟩

/-! ### What becomes of the queue -/

/-- What is queued later was queued as it is, or is as young as the clock. -/
structure QueuedSince (db db' : Db) : Prop where
  clock : db'.clock = db.clock
  queued : ∀ id task', db'.agentTasks.find? id = some task' → task'.status = .queued →
    db.agentTasks.find? id = some task' ∨ task'.createdAt = db.clock

theorem QueuedSince.refl (db : Db) : QueuedSince db db := ⟨rfl, fun _ _ hfind _ => .inl hfind⟩

theorem QueuedSince.trans {db db' db'' : Db} (h : QueuedSince db db') (h' : QueuedSince db' db'') :
    QueuedSince db db'' := by
  refine ⟨h'.clock.trans h.clock, fun id task' hfind hqueued => ?_⟩
  rcases h'.queued id task' hfind hqueued with hbetween | hyoung
  · exact h.queued id task' hbetween hqueued
  · exact .inr (hyoung.trans h.clock)

/-- No younger task comes before one that is older than the clock. -/
theorem QueuedSince.ahead {db db' : Db} (h : QueuedSince db db') {task : AgentTask}
    (hold : task.createdAt < db.clock) : db'.ahead task ⊆ db.ahead task := by
  intro id hid
  obtain ⟨other, hfind, hqueued, hnode, hcreated⟩ := mem_ahead.mp hid
  rcases h.queued id other hfind hqueued with hbefore | hyoung
  · exact mem_ahead.mpr ⟨other, hbefore, hqueued, hnode, hcreated⟩
  · omega

/-- A statement takes no time. -/
theorem exec_clock (stmt : Stmt) (db : Db) : (stmt.exec db).2.clock = db.clock := by
  cases stmt with
  | insertAgentTask task => exact insertRow_projection Db.clock _ _ _ _ fun _ => rfl
  | enqueueInstanceTask task instanceId => exact insertRow_projection Db.clock _ _ _ _ fun _ => rfl
  | enqueueFileVerification task fileId => exact insertRow_projection Db.clock _ _ _ _ fun _ => rfl
  | insertModelFile file => exact insertRow_projection Db.clock _ _ _ _ fun _ => rfl
  | insertTrash item => exact insertRow_projection Db.clock _ _ _ _ fun _ => rfl
  | insertModelInstance row => exact insertRow_projection Db.clock _ _ _ _ fun _ => rfl
  | insertRuntime row => exact insertRow_projection Db.clock _ _ _ _ fun _ => rfl
  | recordResult selected status result now =>
      exact exec_recordResult_projection Db.clock (fun _ _ => rfl) (fun _ _ _ _ => rfl) (fun _ _ _ _ => rfl)
        (fun _ _ _ _ => rfl) status result now
  | deleteRuntime runtimeId =>
      rw [Stmt.exec]
      split <;> rfl
  | recordHeartbeat request now =>
      rw [Stmt.exec]
      split <;> rfl
  | _ => rfl

/-- The statement enqueues only tasks of the present time. -/
theorem queuedSince_exec {stmt : Stmt} {db : Db}
    (hnow : ∀ task, stmt.enqueues = some task → task.createdAt = db.clock) :
    QueuedSince db (stmt.exec db).2 := by
  refine ⟨exec_clock stmt db, fun id task' hfind hqueued => ?_⟩
  cases hbefore : db.agentTasks.find? id with
  | none => exact .inr (hnow task' (enqueues_of_find?_exec hbefore hfind))
  | some task =>
      rw [find?_exec_of_some stmt hbefore] at hfind
      obtain rfl := Option.some.inj hfind
      rw [onTask_queued hqueued]
      exact .inl rfl

/-- The kinds of writes that enqueue a task. -/
def enqueuingWrites : List Write := [.insertAgentTask, .enqueueInstanceTask, .enqueueFileVerification]

theorem enqueues_none_of_among {writes : List Write} (hwrites : ∀ w ∈ enqueuingWrites, w ∉ writes)
    {stmt : Stmt} (hamong : stmt.Among writes) : stmt.enqueues = none := by
  cases stmt with
  | insertAgentTask task => exact absurd (hamong _ rfl) (hwrites _ (by decide))
  | enqueueInstanceTask task => exact absurd (hamong _ rfl) (hwrites _ (by decide))
  | enqueueFileVerification task => exact absurd (hamong _ rfl) (hwrites _ (by decide))
  | _ => rfl

theorem respected_queuedSince {writes : List Write} (hwrites : ∀ w ∈ enqueuingWrites, w ∉ writes) :
    Respected QueuedSince writes where
  refl := .refl
  trans _ _ _ h h' := h.trans h'
  exec stmt db hamong := by
    refine queuedSince_exec fun task henqueues => ?_
    rw [enqueues_none_of_among hwrites hamong] at henqueues
    cases henqueues
  models db _ := ⟨rfl, fun _ _ hfind _ => .inl hfind⟩

/-! ### Requests up to their wait -/

/-- Served at this time, the handler enqueues only tasks of this time. -/
def EnqueuesAt (now : Int) {α : Type} (h : Handler α) : Prop :=
  ∀ db, db.clock = now → QueuedSince db (serve h db).2

theorem respected_quiet : Respected QueuedSince (.recordResult :: quietWrites) :=
  respected_queuedSince (by decide)

section Requests

variable {now : Int} {α β : Type}

theorem enqueuesAt_bind {h : Handler α} {f : α → Handler β} (hh : EnqueuesAt now h)
    (hf : ∀ a, EnqueuesAt now (f a)) : EnqueuesAt now (h >>= f) := by
  intro db hclock
  have hfirst := hh db hclock
  cases hserve : serve h db with
  | mk outcome db' =>
      rw [hserve] at hfirst
      cases outcome with
      | error e =>
          rw [serve_bind_error hserve]
          exact hfirst
      | ok a =>
          rw [serve_bind_ok hserve]
          exact hfirst.trans (hf a db' (hfirst.clock.trans hclock))

theorem enqueuesAt_execute {stmt : Stmt} (hnow : ∀ task, stmt.enqueues = some task → task.createdAt = now) :
    EnqueuesAt now (execute stmt) := by
  intro db hclock
  rw [serve_execute]
  exact queuedSince_exec fun task henqueues => (hnow task henqueues).trans hclock.symm

theorem enqueues_enqueuesAt (now : Int) :
    Enqueues (fun _ h => EnqueuesAt now h) (.recordResult :: quietWrites) fun read => read = now where
  uses huses db _ := huses.respects respected_quiet db
  bind := enqueuesAt_bind
  now hf db hclock := by
    rw [serve_bind_ok (serve_nowUnixSecs db), hclock]
    exact hf now rfl db hclock
  insert task hnow _ _ := enqueuesAt_execute fun row henqueues => by
    rw [← Option.some.inj henqueues]
    exact hnow

theorem enqueuesAt_enqueueLocalInstanceTask (deps : External) (id : String) (kind : TaskKind)
    (pendingStatus taskId : String) :
    EnqueuesAt now (enqueueLocalInstanceTask deps id kind pendingStatus taskId) := by
  have hP := enqueues_enqueuesAt now
  apply hP.reads_bind (uses_modelInstance id)
  intro row
  apply hP.reads_bind (uses_rejectIf _ _)
  intro _
  apply hP.reads_bind (uses_required _ _)
  intro nodeId
  apply hP.reads_bind (uses_nodeOnline nodeId)
  intro online
  apply hP.reads_bind (uses_rejectIf _ _)
  intro _
  apply hP.reads_bind (uses_required _ _)
  intro envId
  apply hP.reads_bind (uses_runtimeEnvironment envId)
  intro env
  apply hP.reads_bind (uses_rejectIf _ _)
  intro _
  apply hP.reads_bind (uses_checked _)
  intro params
  apply hP.now
  rintro _ rfl
  apply hP.reads_bind (uses_instanceTaskFile _ env)
  intro file
  apply enqueuesAt_bind (enqueuesAt_execute fun task henqueues => ?_)
  · intro accepted
    exact hP.reads (uses_inserted accepted)
  · rw [← Option.some.inj henqueues]
    rfl

theorem enqueuesAt_queueModelFileVerification (id taskId : String) :
    EnqueuesAt now (queueModelFileVerification id taskId) := by
  have hP := enqueues_enqueuesAt now
  have hread : EnqueuesAt now (modelFile id) := hP.uses (uses_modelFile (by decide) id)
  apply enqueuesAt_bind hread
  intro file
  apply hP.now
  rintro _ rfl
  apply hP.reads_bind (uses_nodeOnline file.nodeId)
  intro online
  apply enqueuesAt_bind (enqueuesAt_execute fun task henqueues => ?_)
  · intro accepted
    exact hP.reads_bind (uses_inserted accepted) fun _ => hread
  · rw [← Option.some.inj henqueues]
    rfl

theorem enqueuesAt_beginCleanup (id taskId : String) : EnqueuesAt now (beginCleanup id taskId) := by
  have hP := enqueues_enqueuesAt now
  apply hP.reads_bind (uses_modelFileTrashItem id)
  intro item
  apply hP.reads_bind (uses_required _ _)
  intro nodeId
  split
  · exact hP.reads (uses_pure _)
  apply hP.reads_bind (uses_nodeOnline nodeId)
  intro online
  split
  · apply hP.now
    rintro _ rfl
    apply enqueuesAt_bind (enqueuesAt_execute fun task henqueues => ?_)
    · intro accepted
      apply hP.reads_bind (uses_inserted accepted)
      intro _
      exact enqueuesAt_bind (hP.uses (uses_execute rfl (by decide))) fun _ => hP.reads (uses_pure _)
    · rw [← Option.some.inj henqueues]
      rfl
  · exact enqueuesAt_bind (hP.uses (uses_updateTrashFailure (by decide) id _ _)) fun _ =>
      hP.reads (uses_throw _)

theorem enqueuesAt_begin (deps : External) (request : Request) :
    EnqueuesAt now (request.begin deps) := by
  have hP := enqueues_enqueuesAt now
  refine hP.begin (List.subset_cons_self _ _) deps (fun id kind pendingStatus taskId _ => ?_) ?_ ?_ ?_ request
  · exact enqueuesAt_enqueueLocalInstanceTask deps id kind pendingStatus taskId
  · exact enqueuesAt_queueModelFileVerification
  · exact enqueuesAt_beginCleanup
  · intro taskId request
    exact hP.uses (uses_recordAgentTaskResult (by decide) taskId request)

end Requests

/-! ### Operations -/

theorem queuedSince_finish (request : PlatformRequest) (db : Db) :
    QueuedSince db (request.finish db) := by
  cases request with
  | plain request =>
      exact ((quiet_finish request).mono (List.subset_cons_self _ _)).respects respected_quiet db
  | createModel request id fileId taskId rounds =>
      have hwaited : QueuedSince db (serve (waitForModelFileVerification taskId rounds) db).2 :=
        (uses_waitForModelFileVerification (by decide) taskId rounds).respects respected_quiet db
      simp only [PlatformRequest.finish]
      split <;> rename_i hserve <;> rw [hserve] at hwaited
      · split
        · exact hwaited
        · exact hwaited.trans (respected_createModelRows respected_quiet (by decide) _ _ _)
      · exact hwaited
  | deleteModel id trashId => exact .refl db

theorem queuedSince_begin (deps : External) (request : PlatformRequest) (db : Db) :
    QueuedSince db (request.begin deps db).2 := by
  cases request with
  | plain request =>
      rw [db_begin_plain]
      exact enqueuesAt_begin deps request db rfl
  | createModel request id fileId taskId rounds =>
      have hbegun := (enqueues_enqueuesAt db.clock).beginModelCreation deps request taskId db rfl
      simp only [PlatformRequest.begin]
      split <;> rename_i hserve <;> rw [hserve] at hbegun <;> exact hbegun
  | deleteModel id trashId =>
      exact respected_begin deps (.deleteModel id trashId)
        (respected_queuedSince (by simp only [PlatformRequest.writes]; decide)) db

theorem ahead_perform (deps : External) (s : Platform) (op : PlatformOperation) {task : AgentTask}
    (hold : task.createdAt < s.db.clock) : (op.perform deps s).db.ahead task ⊆ s.db.ahead task := by
  cases op with
  | serve request => exact (queuedSince_begin deps request s.db).ahead hold
  | resume index =>
      simp only [PlatformOperation.perform]
      split
      · exact Finset.Subset.refl _
      · exact (queuedSince_finish _ s.db).ahead hold
  | act action =>
      simp only [PlatformOperation.perform, Db.ahead, act_agentTasks]
      exact Finset.Subset.refl _

/-! ### Polls -/

/-- The oldest task of the queue of a node. -/
structure Db.Oldest (db : Db) (nodeId : String) (row : AgentTask) : Prop where
  stored : db.agentTasks.find? row.id = some row
  node : row.nodeId = nodeId
  queued : row.status = .queued
  oldest : ∀ id task, db.agentTasks.find? id = some task → task.status = .queued →
    task.nodeId = nodeId → row.createdAt ≤ task.createdAt

theorem oldest_of_next {db : Db} {nodeId : String} {row : AgentTask}
    (h : ((db.agentTasks.rows.filter fun task =>
      task.nodeId = nodeId && task.status = .queued).argmin (·.createdAt)) = some row) :
    db.Oldest nodeId row := by
  obtain ⟨hmem, hnode, hqueued⟩ := nextQueued_spec h
  refine ⟨Table.find?_of_mem hmem, hnode, hqueued, fun id task hfind hstatus htaskNode => ?_⟩
  have htask : task ∈ db.agentTasks.rows.filter fun task =>
      task.nodeId = nodeId && task.status = .queued := by
    simp only [List.mem_filter, Bool.and_eq_true, decide_eq_true_eq]
    exact ⟨Table.find?_mem hfind, htaskNode, hstatus⟩
  exact List.le_of_mem_argmin htask (Option.mem_def.mpr h)

theorem none_queued_of_next {db : Db} {nodeId : String}
    (h : ((db.agentTasks.rows.filter fun task =>
      task.nodeId = nodeId && task.status = .queued).argmin (·.createdAt)) = none) {id : String}
    {task : AgentTask} (hfind : db.agentTasks.find? id = some task) (hnode : task.nodeId = nodeId) :
    task.status ≠ .queued := by
  intro hqueued
  have hempty := List.argmin_eq_none.mp h
  have htask : task ∈ db.agentTasks.rows.filter fun task =>
      task.nodeId = nodeId && task.status = .queued := by
    simp only [List.mem_filter, Bool.and_eq_true, decide_eq_true_eq]
    exact ⟨Table.find?_mem hfind, hnode, hqueued⟩
  rw [hempty] at htask
  cases htask

/-- How the loop of a poll that ends without an error has left the queue. -/
def PollEnds (db db' : Db) (nodeId : String) : AgentTask ⊕ AgentConfig → Prop
  | .inl row => QueuedSince db db' ∧ db'.Oldest nodeId row
  | .inr _ => QueuedSince db db' ∧ ∀ id task, db'.agentTasks.find? id = some task →
      task.nodeId = nodeId → task.status ≠ .queued

theorem PollEnds.since {db between db' : Db} {nodeId : String} {found : AgentTask ⊕ AgentConfig}
    (hsince : QueuedSince db between) (h : PollEnds between db' nodeId found) :
    PollEnds db db' nodeId found := by
  cases found with
  | inl row => exact ⟨hsince.trans h.1, h.2⟩
  | inr config => exact ⟨hsince.trans h.1, h.2⟩

theorem serve_effectiveAgentConfig_db {nodeId : String} {config : AgentConfig} {db db' : Db}
    (h : serve (effectiveAgentConfig nodeId) db = (.ok config, db')) : db' = db := by
  have hsame := serve_of_reads (uses_effectiveAgentConfig nodeId) db
  rw [h] at hsame
  exact hsame

/-- What a round of the loop does with the queue that its sweep leaves. -/
theorem pollLoop_ends (nodeId : String) (version : Option Int) (waits : List Bool) {db db' : Db}
    {found : AgentTask ⊕ AgentConfig}
    (h : serve (pollLoop nodeId version waits) db = (.ok found, db')) : PollEnds db db' nodeId found := by
  have hnext : ∀ db, serve (nextQueuedAgentTask nodeId) db = (.ok
      ((db.agentTasks.rows.filter fun task =>
        task.nodeId = nodeId && task.status = .queued).argmin (·.createdAt)), db) := fun _ => rfl
  have hsweeps : ∀ db, QueuedSince db (serve markTimedOutTasks db).2 := fun db =>
    (uses_markTimedOutTasks (by decide)).respects respected_quiet db
  induction waits generalizing db with
  | nil =>
      unfold pollLoop at h
      obtain ⟨_, swept, hswept, h⟩ := serve_bind_eq_ok h
      have hsince := hsweeps db
      rw [hswept] at hsince
      rw [serve_bind_ok (hnext swept)] at h
      split at h
      · rename_i row hrow
        cases h
        exact ⟨hsince, oldest_of_next hrow⟩
      · rename_i hnone
        obtain ⟨config, _, hconfig, h⟩ := serve_bind_eq_ok h
        obtain rfl := serve_effectiveAgentConfig_db hconfig
        cases h
        exact ⟨hsince, fun id task hfind hnode => none_queued_of_next hnone hfind hnode⟩
  | cons notified waits ih =>
      unfold pollLoop at h
      obtain ⟨_, swept, hswept, h⟩ := serve_bind_eq_ok h
      have hsince := hsweeps db
      rw [hswept] at hsince
      rw [serve_bind_ok (hnext swept)] at h
      split at h
      · rename_i row hrow
        cases h
        exact ⟨hsince, oldest_of_next hrow⟩
      · rename_i hnone
        split at h
        · obtain ⟨config, read, hconfig, hread⟩ := serve_bind_eq_ok h
          have hsame : read = swept := serve_effectiveAgentConfig_db hconfig
          rw [hsame, serve_bind_ok (hnext swept)] at hread
          split at hread
          · cases hread
            exact ⟨hsince, fun id task hfind hnode => none_queued_of_next hnone hfind hnode⟩
          · exact (ih hread).since hsince
        · exact (ih h).since hsince

/-- The claim of a task takes it out of the queue, and what follows puts nothing old into it. -/
theorem dispatch_since (nodeId : String) (row : AgentTask) (db : Db) :
    QueuedSince db (serve (dispatchAgentTask nodeId row) db).2
      ∧ ∀ task', (serve (dispatchAgentTask nodeId row) db).2.agentTasks.find? row.id = some task' →
        task'.status = .queued → task'.createdAt = db.clock := by
  have hclaim : ∀ now leaseUntil,
      QueuedSince db ((Stmt.claimAgentTask row now leaseUntil).exec db).2 := by
    intro now leaseUntil
    refine queuedSince_exec fun task henqueues => ?_
    cases henqueues
  have hrest : QueuedSince ((Stmt.claimAgentTask row db.clock (db.clock + agentTaskLeaseSecs)).exec db).2
      (serve (dispatchAgentTask nodeId row) db).2 := by
    refine respected_quiet.after_execute (fun _ => ?_) db
    refine uses_bind (uses_markDispatched (by decide) (by decide) row _) fun _ => ?_
    refine uses_bind (uses_query _) fun stored => uses_bind (uses_required _ stored) fun stored => ?_
    exact uses_bind (uses_effectiveAgentConfig nodeId) fun _ => uses_pure _
  refine ⟨(hclaim _ _).trans hrest, fun task' hfind hqueued => ?_⟩
  rcases hrest.queued row.id task' hfind hqueued with hclaimed | hyoung
  · exfalso
    cases hstored : db.agentTasks.find? row.id with
    | none =>
        have hnone := Table.find?_update db.agentTasks row.id
          (·.claim db.clock (db.clock + agentTaskLeaseSecs)) (fun _ => rfl) row.id
        rw [if_pos rfl, hstored] at hnone
        cases hnone.symm.trans hclaimed
    | some task =>
        rw [find?_exec_of_some _ hstored] at hclaimed
        obtain rfl := Option.some.inj hclaimed
        have hkey : task.id = row.id := Table.find?_key hstored
        simp only [Stmt.onTask, if_pos hkey] at hqueued
        cases hqueued
  · exact hyoung.trans (hclaim db.clock (db.clock + agentTaskLeaseSecs)).clock

/-! ### The wait of a task -/

/-- A poll that is answered leaves the task no longer queued, or takes one out of the queue before it. -/
theorem ahead_poll {nodeId : String} {version : Option Int} {waits : List Bool} {db : Db}
    {task : AgentTask} (hold : task.createdAt < db.clock) (hnode : nodeId = task.nodeId)
    (hanswered : (serve (pollAgentTask nodeId version waits) db).1.isOk = true)
    (hqueued : task.id ∈ (serve (pollAgentTask nodeId version waits) db).2.ahead task) :
    (serve (pollAgentTask nodeId version waits) db).2.ahead task ⊂ db.ahead task := by
  cases hserve : serve (pollAgentTask nodeId version waits) db with
  | mk outcome db' =>
  rw [hserve] at hanswered hqueued
  cases outcome with
  | error e => cases hanswered
  | ok response =>
      obtain ⟨found, between, hloop, hrest⟩ := serve_bind_eq_ok hserve
      have hends := pollLoop_ends nodeId version waits hloop
      cases found with
      | inr config =>
          obtain ⟨-, hnone⟩ := hends
          obtain rfl : between = db' := congrArg Prod.snd hrest
          obtain ⟨other, hfind, hstatus, hother, -⟩ := mem_ahead.mp hqueued
          exact absurd hstatus (hnone task.id other hfind (hother.trans hnode.symm))
      | inl row =>
          obtain ⟨hsince, holdest⟩ := hends
          have hdispatched := dispatch_since nodeId row between
          change serve (dispatchAgentTask nodeId row) between = _ at hrest
          rw [hrest] at hdispatched
          obtain ⟨hafter, hclaimed⟩ := hdispatched
          have hbetween : task.createdAt < between.clock := by
            rw [hsince.clock]
            exact hold
          -- The row was in front of the task, which is still there, and now is not queued.
          obtain ⟨other, hfind, hstatus, hother, hcreated⟩ := mem_ahead.mp (hafter.ahead hbetween hqueued)
          have hrow : row.createdAt ≤ task.createdAt :=
            (holdest.oldest task.id other hfind hstatus (hother.trans hnode.symm)).trans hcreated
          have hbefore : row.id ∈ between.ahead task :=
            mem_ahead.mpr ⟨row, holdest.stored, holdest.queued, holdest.node.trans hnode, hrow⟩
          have hgone : row.id ∉ db'.ahead task := by
            intro hmem
            obtain ⟨claimed, hclaimedFind, hclaimedStatus, -, hclaimedCreated⟩ := mem_ahead.mp hmem
            have hyoung := hclaimed claimed hclaimedFind hclaimedStatus
            omega
          rw [Finset.ssubset_iff_of_subset ((hsince.trans hafter).ahead hold)]
          exact ⟨row.id, hsince.ahead hold hbefore, hgone⟩

/-- A poll of the node of `task` that is answered while the task is queued. -/
def answersWhileQueued (task : AgentTask) (s : Platform) : PlatformOperation → Bool
  | .serve (.plain (.pollAgentTask nodeId version waits)) =>
      nodeId = task.nodeId && task.id ∈ s.db.ahead task
        && (serve (pollAgentTask nodeId version waits) s.db).1.isOk
  | _ => false

/-- What is left of the wait of a task: the tasks in front of it, and the task itself. -/
def Platform.toWait (task : AgentTask) (s : Platform) : Nat :=
  if task.id ∈ s.db.ahead task then (s.db.ahead task).card else 0

theorem toWait_perform (deps : External) (task : AgentTask) (s : Platform) (op : PlatformOperation)
    (hold : task.createdAt < s.db.clock) :
    (answersWhileQueued task s op).toNat + (op.perform deps s).toWait task ≤ s.toWait task := by
  have hsub := ahead_perform deps s op hold
  have hcard := Finset.card_le_card hsub
  have hkept : (op.perform deps s).toWait task ≤ s.toWait task := by
    unfold Platform.toWait
    by_cases hafter : task.id ∈ (op.perform deps s).db.ahead task
    · rw [if_pos hafter, if_pos (hsub hafter)]
      exact hcard
    · rw [if_neg hafter]
      exact Nat.zero_le _
  by_cases hcounted : answersWhileQueued task s op = true
  · rw [hcounted]
    unfold answersWhileQueued at hcounted
    split at hcounted
    · rename_i nodeId version waits
      simp only [Bool.and_eq_true, decide_eq_true_eq] at hcounted
      obtain ⟨⟨hnode, hqueued⟩, hanswered⟩ := hcounted
      have hdb : (PlatformOperation.perform deps s (.serve (.plain (.pollAgentTask nodeId version
          waits)))).db = (serve (pollAgentTask nodeId version waits) s.db).2 := by
        change ((PlatformRequest.plain _).begin deps s.db).2 = _
        rw [db_begin_plain]
        exact (serve_then_pure _ some s.db).trans (serve_then_pure _ Response.poll s.db)
      have hpoll := ahead_poll hold hnode hanswered
      have hpositive : 0 < (s.db.ahead task).card := Finset.card_pos.mpr ⟨task.id, hqueued⟩
      unfold Platform.toWait
      rw [hdb, if_pos hqueued, Bool.toNat_true]
      by_cases hafter : task.id ∈ (serve (pollAgentTask nodeId version waits) s.db).2.ahead task
      · rw [if_pos hafter]
        have hless := Finset.card_lt_card (hpoll hafter)
        omega
      · rw [if_neg hafter]
        omega
    · cases hcounted
  · rw [Bool.not_eq_true] at hcounted
    rw [hcounted, Bool.toNat_false, Nat.zero_add]
    exact hkept

/-- In a run after the second in which a task was enqueued, the polls of its node that are answered while
it is queued are at most as many as the tasks, it included, that were queued there by then. -/
theorem polls_while_queued_le (deps : External) (task : AgentTask) (start : Platform)
    (events : List PlatformOperation)
    (hlater : Trace.Along (fun s op => PlatformOperation.perform deps s op)
      (fun s _ => task.createdAt < s.db.clock) start events) :
    Trace.count (fun s op => PlatformOperation.perform deps s op) (answersWhileQueued task) start events
      ≤ (start.db.ahead task).card := by
  calc Trace.count (fun s op => PlatformOperation.perform deps s op) (answersWhileQueued task) start events
      ≤ Trace.count (fun s op => PlatformOperation.perform deps s op) (answersWhileQueued task) start events
          + (Trace.run (fun s op => PlatformOperation.perform deps s op) start events).toWait task :=
        Nat.le_add_right _ _
    _ ≤ start.toWait task := Trace.count_add_le (fun s op hold => toWait_perform deps task s op hold) hlater
    _ ≤ (start.db.ahead task).card := by
        unfold Platform.toWait
        split
        · exact le_rfl
        · exact Nat.zero_le _

/-- Two tasks of one second and a younger one are queued for the node, which polls twice. -/
def queuedTask (id : String) (createdAt : Int) : AgentTask :=
  NewAgentTask.row
    { id, nodeId := "n", kind := .readAgentLog, payloadJson := .obj [], now := createdAt }

def queueDb : Db :=
  { clock := 1000
    nodes := oneNode
    agentTasks := ⟨[queuedTask "a" 990, queuedTask "b" 990, queuedTask "c" 995], by decide⟩ }

theorem polls_while_queued_le_example :
    Trace.count (fun s op => PlatformOperation.perform noExternal s op)
        (answersWhileQueued (queuedTask "b" 990)) { db := queueDb }
        [.serve (.plain (.pollAgentTask "n" none [])), .serve (.plain (.pollAgentTask "n" none [])),
          .serve (.plain (.pollAgentTask "n" none []))] = 2
      ∧ 2 ≤ (queueDb.ahead (queuedTask "b" 990)).card :=
  have hcount : Trace.count (fun s op => PlatformOperation.perform noExternal s op)
      (answersWhileQueued (queuedTask "b" 990)) { db := queueDb }
      [.serve (.plain (.pollAgentTask "n" none [])), .serve (.plain (.pollAgentTask "n" none [])),
        .serve (.plain (.pollAgentTask "n" none []))] = 2 := by decide +kernel
  ⟨hcount, hcount ▸ polls_while_queued_le noExternal (queuedTask "b" 990) { db := queueDb } _
    ⟨by decide, by decide +kernel, by decide +kernel, trivial⟩⟩

end LightAI.Server
