import LightAI.Server.Interference

/-!
# How often a task is handed out

A poll selects a queued row and claims it by its id in a second statement. No poll looks at the row
again before the claim, so two polls may claim one task, each counting one more attempt. As long as no
claim finds more attempts than its poll has selected, every task is claimed at most once, and since
only its claim lets a poll hand a task out, it is handed out at most once.
-/

namespace LightAI.Server

open Interleaving

/-! ### What is claimed and handed out -/

/-- The task that a finished poll has handed out. -/
def handedOut (t : ServerThread) : Option String :=
  match t.result with
  | some (.ok (.poll response)) => response.task.map (·.id)
  | _ => none

def Stmt.claims (id : String) : Stmt → Bool
  | claimAgentTask selected _ _ => selected.id = id
  | _ => false

/-- How many polls have handed the task out. -/
def handOuts (c : ServerConfig) (id : String) : Nat :=
  c.threads.countP fun t => handedOut t = some id

/-- How many claims of the task the requests have executed. -/
def claimCount (c : ServerConfig) (id : String) : Nat :=
  System.performedCount (Stmt.claims id) c

/-- The attempts counted on the row of the task. -/
def attempts (db : Db) (id : String) : Int :=
  ((db.agentTasks.find? id).map (·.attemptCount)).getD 0

/-- Every task is handed out at most once and has at most one attempt. -/
def DispatchedOnce (c : ServerConfig) : Prop :=
  (∀ id task, c.shared.agentTasks.find? id = some task → task.attemptCount ≤ 1) ∧
    ∀ id, handOuts c id ≤ 1

/-- A claim finds as many attempts as its poll has selected: nobody has claimed the row since. -/
def ClaimsAsSelected (c : ServerConfig) (e : ServerEvent) : Prop :=
  ∀ t selected now leaseUntil,
    System.performed c e = some (t, .claimAgentTask selected now leaseUntil) →
      ∀ stored, c.shared.agentTasks.find? selected.id = some stored →
        stored.attemptCount = selected.attemptCount

/-! ### What every statement keeps -/

/-- A queued task has not been claimed yet. -/
def QueuedUnclaimed (db : Db) : Prop :=
  ∀ id task, db.agentTasks.find? id = some task → task.status = .queued → task.attemptCount = 0

/-- No task disappears or loses an attempt. -/
def AttemptsGrow (db db' : Db) : Prop :=
  ∀ id task, db.agentTasks.find? id = some task →
    ∃ task', db'.agentTasks.find? id = some task' ∧ task.attemptCount ≤ task'.attemptCount

/-- What a request may rely on between two of its statements. -/
def DispatchRely (db db' : Db) : Prop :=
  (QueuedUnclaimed db → QueuedUnclaimed db') ∧ AttemptsGrow db db'

theorem onTask_attemptCount (stmt : Stmt) (task : AgentTask) :
    (stmt.onTask task).attemptCount
      = task.attemptCount + if stmt.claims task.id then 1 else 0 := by
  cases stmt with
  | claimAgentTask selected now leaseUntil =>
      by_cases hid : task.id = selected.id
      · simp [Stmt.onTask, Stmt.claims, hid, AgentTask.claim]
      · simp [Stmt.onTask, Stmt.claims, hid, Ne.symm hid]
  | markTaskTimedOut taskId now =>
      simp only [Stmt.onTask, Stmt.claims]
      split <;> simp [AgentTask.timeOut]
  | recordResult selected status result now =>
      simp only [Stmt.onTask, Stmt.claims]
      split <;> simp [AgentTask.finish]
  | _ => simp [Stmt.onTask, Stmt.claims]

theorem onTask_queued {stmt : Stmt} {task : AgentTask}
    (hqueued : (stmt.onTask task).status = .queued) : stmt.onTask task = task := by
  cases stmt with
  | claimAgentTask selected now leaseUntil =>
      simp only [Stmt.onTask] at hqueued ⊢
      split at hqueued
      · cases hqueued
      · rw [if_neg ‹_›]
  | markTaskTimedOut taskId now =>
      simp only [Stmt.onTask] at hqueued ⊢
      split at hqueued
      · cases hqueued
      · rw [if_neg ‹_›]
  | recordResult selected status result now =>
      simp only [Stmt.onTask] at hqueued ⊢
      split at hqueued
      · cases status <;> cases hqueued
      · rw [if_neg ‹_›]
  | _ => rfl

theorem enqueues_unclaimed {stmt : Stmt} {task : AgentTask} (h : stmt.enqueues = some task) :
    task.attemptCount = 0 := by
  cases stmt with
  | insertAgentTask new => rw [← Option.some.inj h]; rfl
  | enqueueInstanceTask new => rw [← Option.some.inj h]; rfl
  | enqueueFileVerification new => rw [← Option.some.inj h]; rfl
  | _ => exact nomatch h

theorem queuedUnclaimed_exec (stmt : Stmt) {db : Db} (h : QueuedUnclaimed db) :
    QueuedUnclaimed (stmt.exec db).2 := by
  intro id task htask hqueued
  cases hbefore : db.agentTasks.find? id with
  | none => exact enqueues_unclaimed (enqueues_of_find?_exec hbefore htask)
  | some before =>
      rw [find?_exec_of_some stmt hbefore] at htask
      obtain rfl := Option.some.inj htask
      have hsame := onTask_queued hqueued
      rw [hsame] at hqueued ⊢
      exact h id before hbefore hqueued

theorem attemptsGrow_exec (stmt : Stmt) (db : Db) : AttemptsGrow db (stmt.exec db).2 := by
  intro id task htask
  refine ⟨_, find?_exec_of_some stmt htask, ?_⟩
  rw [onTask_attemptCount]
  split <;> omega

theorem attemptsGrow_trans {db db' db'' : Db} (h : AttemptsGrow db db')
    (h' : AttemptsGrow db' db'') : AttemptsGrow db db'' := by
  intro id task htask
  obtain ⟨task', htask', hle⟩ := h id task htask
  obtain ⟨task'', htask'', hle'⟩ := h' id task' htask'
  exact ⟨task'', htask'', hle.trans hle'⟩

theorem dispatchRely_refl (db : Db) : DispatchRely db db :=
  ⟨id, fun _ task htask => ⟨task, htask, le_rfl⟩⟩

theorem dispatchRely_trans {db db' db'' : Db} (h : DispatchRely db db')
    (h' : DispatchRely db' db'') : DispatchRely db db'' :=
  ⟨h'.1 ∘ h.1, attemptsGrow_trans h.2 h'.2⟩

theorem dispatchRely_exec (stmt : Stmt) (db : Db) : DispatchRely db (stmt.exec db).2 :=
  ⟨queuedUnclaimed_exec stmt, attemptsGrow_exec stmt db⟩

theorem dispatchRely_act (action : Environment) (db : Db) : DispatchRely db (action.act db) := by
  refine ⟨fun h => ?_, fun id task htask => ⟨task, ?_, le_rfl⟩⟩
  · simpa only [QueuedUnclaimed, act_agentTasks] using h
  · rwa [act_agentTasks]

/-! ### What a poll does on its own

`ClaimOfSelected` is the precondition of a claim: its poll selected the row while it was queued, so
unclaimed, and the row is still there. `HandOutAfterClaim` is what a poll may end with. -/

/-- The row was selected without attempts and has not disappeared. -/
def SelectedUnclaimed (db : Db) (row : AgentTask) : Prop :=
  row.attemptCount = 0 ∧
    ∃ stored, db.agentTasks.find? row.id = some stored ∧ 0 ≤ stored.attemptCount

def ClaimOfSelected (_done : List Stmt) (db : Db) : Stmt → Prop
  | .claimAgentTask selected _ _ => SelectedUnclaimed db selected
  | _ => True

def HandOutAfterClaim (done : List Stmt) (_db : Db) : Outcome → Prop
  | .ok (.poll response) =>
      ∀ task, response.task = some task → ∃ stmt ∈ done, stmt.claims task.id = true
  | _ => True

theorem SelectedUnclaimed.of_grow {db db' : Db} {row : AgentTask} (h : SelectedUnclaimed db row)
    (hgrow : AttemptsGrow db db') : SelectedUnclaimed db' row := by
  obtain ⟨hzero, stored, hstored, hnonneg⟩ := h
  obtain ⟨stored', hstored', hle⟩ := hgrow _ stored hstored
  exact ⟨hzero, stored', hstored', hnonneg.trans hle⟩

theorem claimOfSelected_of_among {writes : List Write} (hwrites : .claimAgentTask ∉ writes)
    {stmt : Stmt} (hamong : stmt.Among writes) (done : List Stmt) (db : Db) :
    ClaimOfSelected done db stmt := by
  cases stmt with
  | claimAgentTask selected now leaseUntil => exact absurd (hamong _ rfl) hwrites
  | _ => trivial

/-- A handler that claims nothing keeps an invariant of its surroundings that no statement breaks. -/
theorem safe_of_no_claim {α : Type} (Inv : List Stmt → Db → Prop) {writes : List Write}
    {h : Handler α} {done : List Stmt} {db : Db} (huses : Uses writes h)
    (hwrites : .claimAgentTask ∉ writes)
    (hinv : ∀ done done' db db', DispatchRely db db' → done ⊆ done' → Inv done db → Inv done' db')
    (hhere : Inv done db) :
    Safe DispatchRely ClaimOfSelected (fun done db _ => Inv done db) done db h := by
  refine huses.safe Inv (fun done db db' hrely => hinv done done db db' hrely (List.Subset.refl _)) ?_
    hhere
  intro done db stmt hdone hamong
  refine ⟨claimOfSelected_of_among hwrites hamong done db, ?_⟩
  exact hinv _ _ _ _ (dispatchRely_exec stmt db) (List.subset_cons_self stmt done) hdone

theorem nextQueued_spec {db : Db} {nodeId : String} {row : AgentTask}
    (h : ((db.agentTasks.rows.filter fun task =>
      task.nodeId = nodeId && task.status = .queued).argmin (·.createdAt)) = some row) :
    row ∈ db.agentTasks.rows ∧ row.nodeId = nodeId ∧ row.status = .queued := by
  have hmem := List.argmin_mem (Option.mem_def.mpr h)
  simpa [List.mem_filter] using hmem

/-- A poll's `SELECT` returns a row without attempts. -/
theorem safe_nextQueuedAgentTask {done : List Stmt} {db : Db} (hdb : QueuedUnclaimed db)
    (nodeId : String) :
    Safe DispatchRely ClaimOfSelected
      (fun _ db result => QueuedUnclaimed db ∧
        ∀ row, result = .ok (some row) → SelectedUnclaimed db row)
      done db (nextQueuedAgentTask nodeId) := by
  refine safe_query (fun _ _ _ => trivial) fun db' hdb' => ⟨hdb'.1 hdb, fun row hrow => ?_⟩
  obtain ⟨hmem, -, hqueued⟩ := nextQueued_spec (Except.ok.inj hrow)
  have hstored := Table.find?_of_mem hmem
  have hzero := hdb'.1 hdb _ row hstored hqueued
  exact ⟨hzero, row, hstored, hzero.ge⟩

theorem safe_pollLoop {done : List Stmt} {db : Db} (hdb : QueuedUnclaimed db) (nodeId : String)
    (version : Option Int) (waits : List Bool) :
    Safe DispatchRely ClaimOfSelected
      (fun _ db result => ∀ row, result = .ok (.inl row) → SelectedUnclaimed db row)
      done db (pollLoop nodeId version waits) := by
  have hkeep : ∀ {α : Type} {writes : List Write} {h : Handler α} {done : List Stmt} {db : Db},
      Uses writes h → .claimAgentTask ∉ writes → QueuedUnclaimed db →
      Safe DispatchRely ClaimOfSelected (fun _ db _ => QueuedUnclaimed db) done db h :=
    fun huses hwrites hdb => safe_of_no_claim (fun _ db => QueuedUnclaimed db) huses hwrites (fun _ _ _ _ hrely _ => hrely.1) hdb
  have hsweep : Uses sweepWrites markTimedOutTasks := uses_markTimedOutTasks (List.Subset.refl _)
  have hconfig : Uses [] (effectiveAgentConfig nodeId) := uses_effectiveAgentConfig nodeId
  induction waits generalizing done db with
  | nil =>
      refine safe_bind _ (hkeep hsweep (by decide) hdb) (fun _ _ _ _ row hrow => nomatch hrow) ?_
      intro done db _ hdb
      refine safe_bind _ (safe_nextQueuedAgentTask hdb nodeId) (fun _ _ _ _ row hrow => nomatch hrow) ?_
      intro done db found hfound
      cases found with
      | some row =>
          refine safe_pure fun row' hrow' => ?_
          obtain rfl : row = row' := Sum.inl.inj (Except.ok.inj hrow')
          exact hfound.2 row rfl
      | none =>
          refine safe_bind _ (hkeep hconfig (by decide) hfound.1)
            (fun _ _ _ _ row hrow => nomatch hrow) fun _ _ config _ => ?_
          exact safe_pure fun row hrow => nomatch hrow
  | cons notified waits ih =>
      refine safe_bind _ (hkeep hsweep (by decide) hdb) (fun _ _ _ _ row hrow => nomatch hrow) ?_
      intro done db _ hdb
      refine safe_bind _ (safe_nextQueuedAgentTask hdb nodeId) (fun _ _ _ _ row hrow => nomatch hrow) ?_
      intro done db found hfound
      cases found with
      | some row =>
          refine safe_pure fun row' hrow' => ?_
          obtain rfl : row = row' := Sum.inl.inj (Except.ok.inj hrow')
          exact hfound.2 row rfl
      | none =>
          cases notified with
          | false => exact ih hfound.1
          | true =>
              refine safe_bind _ (hkeep hconfig (by decide) hfound.1)
                (fun _ _ _ _ row hrow => nomatch hrow) fun done db config hdb => ?_
              refine safe_bind _ (hkeep (uses_nextQueuedAgentTask nodeId : Uses [] _) (by decide) hdb)
                (fun _ _ _ _ row hrow => nomatch hrow) fun done db next hdb => ?_
              split
              · exact safe_pure fun row hrow => nomatch hrow
              · exact ih hdb

/-- The thread has claimed the task. -/
def Claimed (id : String) (done : List Stmt) : Prop := ∃ stmt ∈ done, stmt.claims id = true

theorem Claimed.mono {id : String} {done done' : List Stmt} (h : Claimed id done)
    (hsub : done ⊆ done') : Claimed id done' := by
  obtain ⟨stmt, hmem, hclaims⟩ := h
  exact ⟨stmt, hsub hmem, hclaims⟩

/-- What is handed out is the row that has just been claimed. -/
theorem safe_dispatchAgentTask {done : List Stmt} {db : Db} {row : AgentTask}
    (hrow : SelectedUnclaimed db row) (nodeId : String) :
    Safe DispatchRely ClaimOfSelected
      (fun done _ result => ∀ response task, result = .ok response → response.task = some task →
        Claimed task.id done)
      done db (dispatchAgentTask nodeId row) := by
  have hkeep : ∀ {α : Type} {writes : List Write} {h : Handler α} {done : List Stmt} {db : Db},
      Uses writes h → .claimAgentTask ∉ writes → Claimed row.id done →
      Safe DispatchRely ClaimOfSelected (fun done _ _ => Claimed row.id done) done db h :=
    fun huses hwrites hdone => safe_of_no_claim (fun done _ => Claimed row.id done) huses hwrites
      (fun _ _ _ _ _ hsub hclaimed => hclaimed.mono hsub) hdone
  refine safe_bind (fun _ db _ => SelectedUnclaimed db row)
    (safe_query (fun _ _ _ => trivial) fun db' hdb' => hrow.of_grow hdb'.2)
    (fun _ _ _ _ _ _ h => nomatch h) fun done db now hrow => ?_
  refine safe_bind (fun done _ _ => Claimed row.id done)
    (safe_execute (fun db' hdb' => hrow.of_grow hdb'.2) fun db' _ => ?_)
    (fun _ _ _ _ _ _ h => nomatch h) fun done db _ hdone => ?_
  · exact ⟨_, List.mem_cons_self, by simp [Stmt.claims]⟩
  have hmark : Uses [.setFileVerifying, .setTrashCleanupRunning] (markDispatched row now) :=
    uses_markDispatched (by decide) (by decide) row now
  refine safe_bind _ (hkeep hmark (by decide) hdone) (fun _ _ _ _ _ _ h => nomatch h)
    fun done db _ hdone => ?_
  refine safe_bind
    (fun done _ result => Claimed row.id done ∧
      ∀ stored, result = .ok (some stored) → stored.id = row.id)
    (safe_query (fun _ _ _ => trivial) fun db' _ => ?_)
    (fun _ _ _ _ _ _ h => nomatch h) fun done db found hfound => ?_
  · refine ⟨hdone.mono (List.subset_cons_self _ _), fun stored hstored => ?_⟩
    exact Table.find?_key (Except.ok.inj hstored)
  refine safe_bind (fun done _ result => Claimed row.id done ∧
      ∀ stored, result = .ok stored → stored.id = row.id)
    (safe_required ⟨hfound.1, fun _ h => nomatch h⟩ fun stored hstored => ?_)
    (fun _ _ _ _ _ _ h => nomatch h) fun done db stored hstored => ?_
  · refine ⟨hfound.1, fun stored' hstored' => ?_⟩
    obtain rfl := Except.ok.inj hstored'
    exact hfound.2 _ (congrArg Except.ok hstored)
  refine safe_bind _ (hkeep (uses_effectiveAgentConfig nodeId : Uses [] _) (by decide) hstored.1)
    (fun _ _ _ _ _ _ h => nomatch h) fun done db config hdone => ?_
  refine safe_pure fun response task hresponse htask => ?_
  obtain rfl := Except.ok.inj hresponse
  obtain rfl := Option.some.inj htask
  have hid : (agentTaskFromRow stored).id = row.id := hstored.2 stored rfl
  rwa [hid]

theorem safe_pollAgentTask {db : Db} (hdb : QueuedUnclaimed db) (nodeId : String)
    (version : Option Int) (waits : List Bool) :
    Safe DispatchRely ClaimOfSelected
      (fun done _ result => ∀ response task, result = .ok response → response.task = some task →
        Claimed task.id done)
      [] db (pollAgentTask nodeId version waits) := by
  refine safe_bind _ (safe_pollLoop hdb nodeId version waits) (fun _ _ _ _ _ _ h => nomatch h) ?_
  intro done db found hfound
  cases found with
  | inl row => exact safe_dispatchAgentTask (hfound row rfl) nodeId
  | inr config =>
      refine safe_pure fun response task hresponse htask => ?_
      obtain rfl := Except.ok.inj hresponse
      exact nomatch htask

/-- Every request claims only what it has selected, and hands out only what it has claimed. -/
theorem safe_handler (deps : External) (request : Request) {db : Db} (hdb : QueuedUnclaimed db) :
    Safe DispatchRely ClaimOfSelected HandOutAfterClaim [] db (request.handler deps) := by
  rcases handler_eq_answered deps request with
    ⟨nodeId, version, waits, rfl⟩ | ⟨α, h, heq, huses, hclaim⟩
  · refine safe_bind _ (safe_pollAgentTask hdb nodeId version waits) (fun _ _ _ _ => trivial) ?_
    intro done db response hresponse
    exact safe_pure fun task htask => hresponse response task rfl htask
  · have hsafe : Safe DispatchRely ClaimOfSelected (fun _ _ _ => True) [] db h :=
      safe_of_no_claim (fun _ _ => True) huses hclaim (fun _ _ _ _ _ _ _ => trivial) trivial
    rw [heq]
    exact safe_bind _ hsafe (fun _ _ _ _ => trivial) fun _ _ _ _ => safe_pure trivial

/-! ### Every run -/

/-- What holds of every state of the server, whatever is claimed. -/
structure DispatchInv (deps : External) (c : ServerConfig) : Prop where
  queued : QueuedUnclaimed c.shared
  safe : System.AllRobust (server deps) DispatchRely ClaimOfSelected HandOutAfterClaim c
  counted : ∀ id, (claimCount c id : Int) ≤ attempts c.shared id

theorem attempts_exec (stmt : Stmt) {db : Db} {id : String}
    (hstored : stmt.claims id = true → ∃ stored, db.agentTasks.find? id = some stored) :
    attempts (stmt.exec db).2 id = attempts db id + if stmt.claims id then 1 else 0 := by
  unfold attempts
  cases hbefore : db.agentTasks.find? id with
  | some before =>
      have hid : before.id = id := Table.find?_key hbefore
      rw [find?_exec_of_some stmt hbefore]
      simp [onTask_attemptCount, hid]
  | none =>
      have hnot : stmt.claims id = false := by
        by_contra hclaims
        obtain ⟨stored, hstored⟩ := hstored (by simpa using hclaims)
        rw [hbefore] at hstored
        exact nomatch hstored
      cases hafter : (stmt.exec db).2.agentTasks.find? id with
      | none => simp [hnot]
      | some after =>
          have hzero := enqueues_unclaimed (enqueues_of_find?_exec hbefore hafter)
          simp [hnot, hzero]

/-- A claim that is about to be executed finds its row, which its poll has selected unclaimed. -/
theorem DispatchInv.claim {deps : External} {c : ServerConfig} {e : ServerEvent} {t : ServerThread}
    {selected : AgentTask} {now leaseUntil : Int} (hinv : DispatchInv deps c)
    (hperf : System.performed c e = some (t, .claimAgentTask selected now leaseUntil)) :
    SelectedUnclaimed c.shared selected :=
  System.AllRobust.performed dispatchRely_refl hinv.safe hperf

theorem DispatchInv.attempts_apply {deps : External} {c : ServerConfig} {e : ServerEvent}
    (hinv : DispatchInv deps c) (id : String) :
    attempts ((server deps).apply c e).shared id = attempts c.shared id +
      match System.performed c e with
      | some (_, stmt) => if stmt.claims id then 1 else 0
      | none => 0 := by
  rcases System.apply_shared (M := server deps) c e with ⟨t, stmt, hperf, heq⟩ |
    ⟨hnone, action, heq⟩ | ⟨hnone, heq⟩
  · rw [heq, hperf]
    refine attempts_exec stmt fun hclaims => ?_
    cases stmt with
    | claimAgentTask selected now leaseUntil =>
        obtain ⟨-, stored, hstored, -⟩ := hinv.claim hperf
        have hid : selected.id = id := by simpa [Stmt.claims] using hclaims
        exact ⟨stored, by rwa [← hid]⟩
    | _ => exact nomatch hclaims
  · rw [heq, hnone]
    simp [attempts, server]
  · rw [heq, hnone]
    simp

theorem dispatchInv_apply (deps : External) (c : ServerConfig) (e : ServerEvent)
    (hinv : DispatchInv deps c) : DispatchInv deps ((server deps).apply c e) where
  queued := by
    have hrely : DispatchRely c.shared ((server deps).apply c e).shared :=
      System.apply_rel dispatchRely_refl dispatchRely_exec dispatchRely_act c e
    exact hrely.1 hinv.queued
  safe := by
    refine System.allRobust_apply dispatchRely_refl (fun _ _ _ => dispatchRely_trans) ?_
      (fun _ stmt db _ => dispatchRely_exec stmt db) dispatchRely_act
      (fun request _ => safe_handler deps request) c e hinv.queued
      hinv.safe
    intro done db db' value _ hpost
    exact hpost
  counted := by
    intro id
    have hcount := System.performedCount_apply (M := server deps) (Stmt.claims id) c e
    have hbefore := hinv.counted id
    rw [hinv.attempts_apply id]
    unfold claimCount at hbefore ⊢
    rw [hcount]
    cases System.performed c e with
    | none => simpa using hbefore
    | some performed =>
        by_cases hclaims : performed.2.claims id = true
        · simpa [hclaims] using hbefore
        · simpa [hclaims] using hbefore

theorem handOuts_le_claimCount {deps : External} {c : ServerConfig} (hinv : DispatchInv deps c)
    (id : String) : handOuts c id ≤ claimCount c id := by
  refine System.countP_le_sum_map fun t ht hhanded => ?_
  have hhanded : handedOut t = some id := by simpa using hhanded
  unfold handedOut at hhanded
  split at hhanded
  · rename_i response hresult
    obtain ⟨task, htask, hid⟩ := Option.map_eq_some_iff.mp hhanded
    have hpost : HandOutAfterClaim t.done c.shared (.ok (.poll response)) :=
      System.AllRobust.result hinv.safe ht hresult
    obtain ⟨stmt, hmem, hclaims⟩ := hpost task htask
    rw [hid] at hclaims
    exact List.countP_pos_iff.mpr ⟨stmt, hmem, hclaims⟩
  · exact nomatch hhanded

theorem dispatchedOnce_iff {deps : External} {c : ServerConfig} (hinv : DispatchInv deps c) :
    DispatchedOnce c ↔ ∀ id, attempts c.shared id ≤ 1 := by
  constructor
  · rintro ⟨hattempts, -⟩ id
    unfold attempts
    cases hstored : c.shared.agentTasks.find? id with
    | none => simp
    | some stored => simpa using hattempts id stored hstored
  · intro hattempts
    refine ⟨fun id task htask => ?_, fun id => ?_⟩
    · have hle := hattempts id
      rwa [attempts, htask] at hle
    · have hhanded := handOuts_le_claimCount hinv id
      have hcounted := hinv.counted id
      have hle := hattempts id
      omega

theorem dispatchedOnce_apply_iff {deps : External} {c : ServerConfig} {e : ServerEvent}
    (hinv : DispatchInv deps c) (honce : DispatchedOnce c) :
    DispatchedOnce ((server deps).apply c e) ↔ ClaimsAsSelected c e := by
  rw [dispatchedOnce_iff (dispatchInv_apply deps c e hinv)]
  rw [dispatchedOnce_iff hinv] at honce
  constructor
  · intro hafter t selected now leaseUntil hperf stored hstored
    obtain ⟨hzero, stored', hstored', hnonneg⟩ := hinv.claim hperf
    obtain rfl : stored' = stored := Option.some.inj (hstored'.symm.trans hstored)
    have hle := hafter selected.id
    rw [hinv.attempts_apply, hperf] at hle
    simp only [Stmt.claims, decide_true, if_true, attempts, hstored, Option.map_some,
      Option.getD_some] at hle
    omega
  · intro hclaims id
    rw [hinv.attempts_apply id]
    cases hperf : System.performed c e with
    | none => simpa using honce id
    | some performed =>
        obtain ⟨t, stmt⟩ := performed
        by_cases hclaim : stmt.claims id = true
        · cases stmt with
          | claimAgentTask selected now leaseUntil =>
              obtain ⟨hzero, stored, hstored, -⟩ := hinv.claim hperf
              have hsame := hclaims t selected now leaseUntil hperf stored hstored
              have hid : selected.id = id := by simpa [Stmt.claims] using hclaim
              subst hid
              simp [attempts, hstored, hsame, hzero, Stmt.claims]
          | _ => cases hclaim
        · have hle := honce id
          simpa [hclaim] using hle

/-- From an empty task table, whatever else the database holds: in a run of the server every task has at
most one attempt and is handed out by at most one poll, in every state of the run, if and only if no
claim of the run finds more attempts on its row than its poll has selected. -/
theorem dispatched_once_iff (deps : External) (db : Db) (events : List ServerEvent) :
    Trace.Always (server deps).apply DispatchedOnce { shared := { db with agentTasks := .empty } }
        events ↔
      Trace.Along (server deps).apply ClaimsAsSelected
        { shared := { db with agentTasks := .empty } } events := by
  have hinv : DispatchInv deps { shared := { db with agentTasks := .empty } } :=
    { queued := fun id task htask => nomatch htask
      safe := fun t ht => nomatch ht
      counted := fun id => le_rfl }
  refine Trace.always_iff_along (fun c e => dispatchInv_apply deps c e)
    (fun c e => dispatchedOnce_apply_iff) hinv ?_
  exact ⟨fun id task htask => (nomatch htask), fun id => Nat.zero_le 1⟩

/-! A log is requested, and two polls select its task before either of them claims it. -/

def dispatchDb : Db :=
  { clock := 1000
    nodes := oneNode }

def dispatchEvents : List ServerEvent :=
  [.spawn (.readAgentLog "n" 4096 "t" 0)] ++ List.replicate 4 (.step 0)
    ++ [.spawn (.pollAgentTask "n" none []), .spawn (.pollAgentTask "n" none [])]
    ++ List.replicate 4 (.step 1) ++ List.replicate 4 (.step 2)
    ++ List.replicate 7 (.step 1) ++ List.replicate 7 (.step 2)

theorem task_handed_out_twice :
    ¬ Trace.Always (server noExternal).apply DispatchedOnce
      { shared := { dispatchDb with agentTasks := .empty } } dispatchEvents := by
  intro h
  have honce := (h dispatchEvents [] rfl).2 "t"
  have htwice : handOuts (Trace.run (server noExternal).apply
      { shared := { dispatchDb with agentTasks := .empty } } dispatchEvents) "t" = 2 := by rfl
  omega

end LightAI.Server
