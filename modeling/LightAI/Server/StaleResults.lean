import LightAI.Base.Trace
import LightAI.Server.Operations
import LightAI.Server.Timeouts

/-!
# Which task decides the status of an instance

Several tasks of one instance may be in flight at once, and nothing orders their endings: a result or a
timeout writes the instance whatever has been enqueued in the meantime. So the last ending that the server
has processed decides, and not the task that was enqueued last.
-/

namespace LightAI.Server

/-! ### What is remembered of a run -/

/-- The tasks enqueued, with their instances, and the endings, with the instance and the status that
they have written, the latest first. -/
structure TaskHistory where
  enqueued : List (String × String) := []
  endings : List (String × String × String) := []

namespace TaskHistory

def note (g : TaskHistory) : Change → TaskHistory
  | .enqueue taskId _ instanceId _ => { g with enqueued := (taskId, instanceId) :: g.enqueued }
  | .ending taskId (some written) => { g with endings := (taskId, written) :: g.endings }
  | _ => g

def noteAll (g : TaskHistory) (changes : List Change) : TaskHistory := changes.foldl note g

/-- The task that was enqueued last for an instance. -/
def newest (g : TaskHistory) (instanceId : String) : Option String :=
  (g.enqueued.find? fun entry => entry.2 = instanceId).map Prod.fst

/-- The last ending that has written an instance: its task and the status it has written. -/
def lastEnding (g : TaskHistory) (instanceId : String) : Option (String × String) :=
  (g.endings.find? fun ending => ending.2.1 = instanceId).map fun ending => (ending.1, ending.2.2)

/-- The status that the last ending of a task has written to an instance. -/
def endingOf (g : TaskHistory) (taskId instanceId : String) : Option String :=
  (g.endings.find? fun ending => ending.1 = taskId && ending.2.1 = instanceId).map (·.2.2)

end TaskHistory

abbrev taskStep (deps : External) :
    ServerState × TaskHistory → TaskOperation → ServerState × TaskHistory :=
  Trace.withHistory (fun s op => op.perform deps s) fun s op g => g.noteAll (op.changes deps s)

/-! ### What does not hold -/

/-- An ending changes the row of an instance only if its task is the newest one. -/
def EndingsOfNewest (deps : External) (p : ServerState × TaskHistory) (op : TaskOperation) : Prop :=
  ∀ taskId instanceId status, .ending taskId (some (instanceId, status)) ∈ op.changes deps p.1 →
    (op.perform deps p.1).db.modelInstances.find? instanceId
      ≠ p.1.db.modelInstances.find? instanceId →
    p.2.newest instanceId = some taskId

/-- No task of the instance is in flight. -/
def Board.Quiet (b : Board) (instanceId : String) : Prop :=
  ∀ taskId kind, b.live taskId ≠ some (kind, instanceId)

/-- Once all tasks of a local instance have ended, its status is what the newest one has written. -/
def StatusOfNewest (p : ServerState × TaskHistory) : Prop :=
  ∀ instanceId status taskId ended, p.1.db.board.status instanceId = some status →
    p.1.db.board.Quiet instanceId → p.2.newest instanceId = some taskId →
    p.2.endingOf taskId instanceId = some ended → status = ended

/-! ### What holds -/

/-- An operation that ends tasks of a local instance leaves it with the status of the last of these
endings, whatever has been enqueued since those tasks. -/
def EndingsWritten (deps : External) (p : ServerState × TaskHistory) (op : TaskOperation) : Prop :=
  ∀ instanceId status, (op.perform deps p.1).db.board.status instanceId = some status →
    (∃ taskId ended, .ending taskId (some (instanceId, ended)) ∈ op.changes deps p.1) →
    ∃ taskId, (p.2.noteAll (op.changes deps p.1)).lastEnding instanceId = some (taskId, status)

/-- Once all tasks of a local instance have ended, its status is what the last ending has written. -/
def StatusOfLastEnding (p : ServerState × TaskHistory) : Prop :=
  ∀ instanceId status, p.1.db.board.status instanceId = some status →
    p.1.db.board.Quiet instanceId → (∃ taskId, (taskId, instanceId) ∈ p.2.enqueued) →
    ∃ taskId, p.2.lastEnding instanceId = some (taskId, status)

/-! ### On the board -/

/-- A new task gets a new id, and an ending writes the instance of its task. -/
def Board.Allows (b : Board) : Change → Prop
  | .enqueue taskId _ _ _ => b.live taskId = none
  | .ending taskId written => ∀ kind instanceId, b.live taskId = some (kind, instanceId) →
      ∃ status, written = some (instanceId, status)
  | _ => False

/-- A local instance with tasks has one in flight, or the status of the last ending. -/
def DecidedByEnding (b : Board) (g : TaskHistory) : Prop :=
  ∀ instanceId status, b.status instanceId = some status →
    (∃ taskId, (taskId, instanceId) ∈ g.enqueued) →
    (∃ taskId kind, b.live taskId = some (kind, instanceId)) ∨
      ∃ taskId, g.lastEnding instanceId = some (taskId, status)

theorem lastEnding_note_self (g : TaskHistory) (taskId instanceId status : String) :
    (g.note (.ending taskId (some (instanceId, status)))).lastEnding instanceId
      = some (taskId, status) := by
  simp [TaskHistory.lastEnding, TaskHistory.note]

theorem lastEnding_note_of_ne (g : TaskHistory) (taskId status : String) {instanceId instanceId' : String}
    (hne : instanceId' ≠ instanceId) :
    (g.note (.ending taskId (some (instanceId, status)))).lastEnding instanceId'
      = g.lastEnding instanceId' := by
  simp [TaskHistory.lastEnding, TaskHistory.note, Ne.symm hne]

theorem status_setStatus_self {b : Board} {instanceId status status' : String}
    (h : (b.setStatus instanceId status).status instanceId = some status') : status' = status := by
  simp only [Board.setStatus, Function.update_self, Option.map_eq_some_iff] at h
  obtain ⟨_, -, rfl⟩ := h
  rfl

theorem status_setStatus_of_ne {b : Board} {instanceId instanceId' : String} (status : String)
    (hne : instanceId' ≠ instanceId) :
    (b.setStatus instanceId status).status instanceId' = b.status instanceId' :=
  Function.update_of_ne hne _ _

theorem decidedByEnding_after (b : Board) (g : TaskHistory) (change : Change)
    (h : DecidedByEnding b g) (hallows : b.Allows change) :
    DecidedByEnding (b.after change) (g.note change) := by
  intro instanceId status hstatus henqueued
  cases change with
  | enqueue taskId kind instanceId' pendingStatus =>
      by_cases hid : instanceId = instanceId'
      · left
        refine ⟨taskId, kind, ?_⟩
        rw [hid]
        exact Function.update_self ..
      · have hbefore : b.status instanceId = some status := by
          rw [← hstatus]
          exact (status_setStatus_of_ne pendingStatus hid).symm
        have hold : ∃ taskId, (taskId, instanceId) ∈ g.enqueued := by
          obtain ⟨taskId', hmem⟩ := henqueued
          rcases List.mem_cons.mp hmem with hnew | hmem
          · exact absurd (congrArg Prod.snd hnew) hid
          · exact ⟨taskId', hmem⟩
        rcases h instanceId status hbefore hold with ⟨taskId', kind', hlive⟩ | hlast
        · left
          have hne : taskId' ≠ taskId := by
            rintro rfl
            have hnone : b.live taskId' = none := hallows
            rw [hnone] at hlive
            exact nomatch hlive
          exact ⟨taskId', kind', (Function.update_of_ne hne _ _).trans hlive⟩
        · exact .inr hlast
  | ending taskId written =>
      have hkept : ∀ taskId' kind', b.live taskId' = some (kind', instanceId) → taskId' ≠ taskId →
          (b.after (.ending taskId written)).live taskId' = some (kind', instanceId) := by
        intro taskId' kind' hlive hne
        have hfinish : (b.finish taskId).live taskId' = b.live taskId' :=
          Function.update_of_ne hne _ _
        cases written with
        | none => exact hfinish.trans hlive
        | some written => exact hfinish.trans hlive
      cases written with
      | none =>
          rcases h instanceId status hstatus henqueued with ⟨taskId', kind', hlive⟩ | hlast
          · left
            have hne : taskId' ≠ taskId := by
              rintro rfl
              obtain ⟨_, hwritten⟩ := hallows kind' instanceId hlive
              exact nomatch hwritten
            exact ⟨taskId', kind', hkept taskId' kind' hlive hne⟩
          · exact .inr hlast
      | some written =>
          obtain ⟨instanceId', ended⟩ := written
          by_cases hid : instanceId = instanceId'
          · subst hid
            right
            have hended : status = ended := status_setStatus_self hstatus
            exact ⟨taskId, by rw [lastEnding_note_self, hended]⟩
          · have hbefore : b.status instanceId = some status := by
              rw [← hstatus]
              exact (status_setStatus_of_ne ended hid).symm
            rw [lastEnding_note_of_ne g taskId ended hid]
            rcases h instanceId status hbefore henqueued with ⟨taskId', kind', hlive⟩ | hlast
            · left
              have hne : taskId' ≠ taskId := by
                rintro rfl
                obtain ⟨_, hwritten⟩ := hallows kind' instanceId hlive
                exact hid (congrArg Prod.fst (Option.some.inj hwritten)).symm
              exact ⟨taskId', kind', hkept taskId' kind' hlive hne⟩
            · exact .inr hlast
  | setStatus instanceId' status' => exact hallows.elim
  | remove instanceId' => exact hallows.elim

/-! ### From the board to the operations -/

theorem live_of_after_ending {b : Board} {taskId taskId' : String}
    {written : Option (String × String)} {found : TaskKind × String}
    (h : (b.after (.ending taskId written)).live taskId' = some found) :
    b.live taskId' = some found := by
  have hfinish : (b.finish taskId).live taskId' = some found := by
    cases written with
    | none => exact h
    | some written => exact h
  by_cases hid : taskId' = taskId
  · rw [hid] at hfinish
    simp [Board.finish] at hfinish
  · have hsame : (b.finish taskId).live taskId' = b.live taskId' := Function.update_of_ne hid _ _
    rwa [hsame] at hfinish

/-- Endings that are allowed together are allowed one after the other. -/
theorem along_allows_of_endings {b : Board} {changes : List Change}
    (h : ∀ change ∈ changes, (∃ taskId written, change = .ending taskId written) ∧ b.Allows change) :
    Trace.Along Board.after Board.Allows b changes := by
  induction changes generalizing b with
  | nil => trivial
  | cons change changes ih =>
      obtain ⟨⟨taskId, written, rfl⟩, hallows⟩ := h change List.mem_cons_self
      refine ⟨hallows, ih fun change' hmem => ?_⟩
      obtain ⟨⟨taskId', written', rfl⟩, hallows'⟩ := h change' (List.mem_cons_of_mem _ hmem)
      refine ⟨⟨taskId', written', rfl⟩, fun kind instanceId hlive => ?_⟩
      exact hallows' kind instanceId (live_of_after_ending hlive)

theorem sweptFrom_subset (db : Db) (tasks : List AgentTask) : db.sweptFrom tasks ⊆ tasks := by
  induction tasks with
  | nil => exact List.Subset.refl []
  | cons task tasks ih =>
      intro task' hmem
      rw [Db.sweptFrom] at hmem
      split at hmem
      · rw [List.mem_singleton.mp hmem]
        exact List.mem_cons_self
      · rcases List.mem_cons.mp hmem with rfl | hmem
        · exact List.mem_cons_self
        · exact List.mem_cons_of_mem task (ih hmem)

theorem mem_rows_of_swept {db : Db} {task : AgentTask} (h : task ∈ db.swept) :
    task ∈ db.agentTasks.rows ∧ task.expired db.clock = true :=
  List.mem_filter.mp (sweptFrom_subset db _ h)

/-- The ending of a stored task writes the instance of the task. -/
theorem allows_ending_of_stored {db : Db} {task : AgentTask} {status : String}
    (hstored : db.agentTasks.find? task.id = some task) :
    db.board.Allows (.ending task.id (task.writes status)) := by
  intro kind instanceId hlive
  obtain ⟨task', htask', -, -, hentity⟩ := board_live_eq_some.mp hlive
  rw [hstored] at htask'
  obtain rfl := Option.some.inj htask'
  exact ⟨status, by rw [AgentTask.writes, hentity]⟩

theorem allows_enqueue {id pendingStatus taskId : String} {kind : TaskKind} {db db' : Db}
    (h : Enqueued id kind pendingStatus taskId db db') :
    db.board.Allows (.enqueue taskId kind id pendingStatus) := by
  have hnone : db.board.live taskId = none := by simp [Db.board, h.fresh]
  exact hnone

/-- An operation enqueues one task, or it only ends tasks. -/
theorem endings_changes (deps : External) (s : ServerState) (op : TaskOperation)
    (hs : WaitsForOwnTask s) :
    (∃ taskId kind instanceId pendingStatus,
        op.changes deps s = [.enqueue taskId kind instanceId pendingStatus] ∧
        s.db.board.Allows (.enqueue taskId kind instanceId pendingStatus)) ∨
      ∀ change ∈ op.changes deps s,
        (∃ taskId written, change = .ending taskId written) ∧ s.db.board.Allows change := by
  have henqueue : ∀ {id pendingStatus taskId : String} {kind : TaskKind} {enqueued : Bool},
      (enqueued = true → ∃ db', Enqueued id kind pendingStatus taskId s.db db') →
      (∃ taskId' kind' instanceId pendingStatus',
          enqueueChanges id kind pendingStatus taskId enqueued
            = [.enqueue taskId' kind' instanceId pendingStatus'] ∧
          s.db.board.Allows (.enqueue taskId' kind' instanceId pendingStatus')) ∨
        ∀ change ∈ enqueueChanges id kind pendingStatus taskId enqueued,
          (∃ taskId written, change = .ending taskId written) ∧ s.db.board.Allows change := by
    intro id pendingStatus taskId kind enqueued h
    cases enqueued with
    | false => exact .inr fun change hmem => absurd hmem List.not_mem_nil
    | true =>
        obtain ⟨db', henqueued⟩ := h rfl
        exact .inl ⟨taskId, kind, id, pendingStatus, rfl, allows_enqueue henqueued⟩
  have hok : ∀ (id : String) {kind : TaskKind} (pendingStatus taskId : String),
      kind.isInstanceTask = true →
      (serve (enqueueLocalInstanceTask deps id kind pendingStatus taskId) s.db).1.isOk = true →
      ∃ db', Enqueued id kind pendingStatus taskId s.db db' := by
    intro id kind pendingStatus taskId hkind hisOk
    rcases serve_enqueueLocalInstanceTask deps id hkind pendingStatus taskId s.db with
      ⟨e, h⟩ | ⟨db', henqueued, -⟩
    · rw [h] at hisOk
      cases hisOk
    · exact ⟨db', henqueued⟩
  have hbegan : ∀ {id taskId : String} {kind : TaskKind} {h : Handler (Option ModelInstanceView)},
      ((∃ db', Enqueued id kind "running" taskId s.db db' ∧ serve h s.db = (.ok none, db')) ∨
        ((serve h s.db).1 ≠ .ok none ∧ (serve h s.db).2.board = s.db.board)) →
      beganWaiting (serve h s.db).1 = true → ∃ db', Enqueued id kind "running" taskId s.db db' := by
    intro id taskId kind h hcases hwaiting
    rcases hcases with ⟨db', henqueued, -⟩ | ⟨houtcome, -⟩
    · exact ⟨db', henqueued⟩
    · unfold beganWaiting at hwaiting
      split at hwaiting
      · exact absurd ‹_› houtcome
      · cases hwaiting
  have hsweep : ∀ change ∈ sweepChanges s.db,
      (∃ taskId written, change = .ending taskId written) ∧ s.db.board.Allows change := by
    intro change hmem
    obtain ⟨task, htask, rfl⟩ := List.mem_map.mp hmem
    have hstored := Table.find?_of_mem (mem_rows_of_swept htask).1
    exact ⟨⟨_, _, rfl⟩, allows_ending_of_stored hstored⟩
  cases op with
  | startModelInstance id taskId => exact henqueue (hok id "starting" taskId rfl)
  | stopModelInstance id taskId => exact henqueue (hok id "stopping" taskId rfl)
  | checkModelInstance id taskId http => exact henqueue (hbegan (serve_beginCheck deps id taskId http s.db))
  | testModelInstance id taskId http => exact henqueue (hbegan (serve_beginTest deps id taskId http s.db))
  | pollAgentTask nodeId currentConfigVersion => exact .inr hsweep
  | markTimedOutTasks => exact .inr hsweep
  | recordAgentTaskResult taskId request =>
      right
      intro change hmem
      simp only [TaskOperation.changes, recordChanges] at hmem
      split at hmem
      · rename_i task status hrecorded
        have hfind := recordedResult_task hrecorded
        have hstored : s.db.agentTasks.find? task.id = some task := by
          rwa [Table.find?_key hfind]
        unfold resultChanges at hmem
        split at hmem
        · rw [List.mem_singleton.mp hmem]
          exact ⟨⟨_, _, rfl⟩, allows_ending_of_stored hstored⟩
        · cases hmem
      · cases hmem
  | waitDeadline id taskId =>
      right
      intro change hmem
      rw [TaskOperation.changes] at hmem
      by_cases hwaits : (id, taskId) ∈ s.waiting
      · rw [if_pos hwaits, deadlineChanges] at hmem
        split at hmem
        · rw [List.mem_singleton.mp hmem]
          refine ⟨⟨_, _, rfl⟩, fun kind instanceId hlive => ?_⟩
          obtain ⟨task, htask, hentity⟩ := hs id taskId hwaits
          obtain ⟨task', htask', -, -, hentity'⟩ := board_live_eq_some.mp hlive
          rw [htask] at htask'
          obtain rfl := Option.some.inj htask'
          rw [hentity] at hentity'
          obtain rfl : id = instanceId := by
            injection Option.some.inj hentity'
          exact ⟨"failed", rfl⟩
        · cases hmem
      · rw [if_neg hwaits] at hmem
        cases hmem
  | act action => exact .inr fun change hmem => absurd hmem List.not_mem_nil

theorem along_allows_changes (deps : External) (s : ServerState) (op : TaskOperation)
    (hs : WaitsForOwnTask s) :
    Trace.Along Board.after Board.Allows s.db.board (op.changes deps s) := by
  rcases endings_changes deps s op hs with
    ⟨taskId, kind, instanceId, pendingStatus, hchanges, hallows⟩ | hendings
  · rw [hchanges]
    exact ⟨hallows, trivial⟩
  · exact along_allows_of_endings hendings

theorem decidedByEnding_afterAll {b : Board} {g : TaskHistory} {changes : List Change}
    (h : DecidedByEnding b g) (hallows : Trace.Along Board.after Board.Allows b changes) :
    DecidedByEnding (b.afterAll changes) (g.noteAll changes) := by
  induction changes generalizing b g with
  | nil => exact h
  | cons change changes ih =>
      have hnext : DecidedByEnding (b.after change) (g.note change) :=
        decidedByEnding_after b g change h hallows.1
      exact ih hnext hallows.2

/-- Of several endings of one instance the last one stays. -/
theorem lastEnding_of_endings {b : Board} {g : TaskHistory} {changes : List Change}
    {instanceId status : String}
    (hendings : ∀ change ∈ changes, ∃ taskId written, change = .ending taskId written)
    (hstatus : (b.afterAll changes).status instanceId = some status)
    (hended : ∃ taskId ended, .ending taskId (some (instanceId, ended)) ∈ changes) :
    ∃ taskId, (g.noteAll changes).lastEnding instanceId = some (taskId, status) := by
  induction changes using List.reverseRecOn generalizing status with
  | nil =>
      obtain ⟨taskId, ended, hmem⟩ := hended
      exact nomatch hmem
  | append_singleton changes change ih =>
      have hearlier : ∀ change ∈ changes, ∃ taskId written, change = .ending taskId written :=
        fun change hmem => hendings change (List.mem_append_left _ hmem)
      have hboard : b.afterAll (changes ++ [change]) = (b.afterAll changes).after change :=
        Board.afterAll_append b changes [change]
      have hnoted : g.noteAll (changes ++ [change]) = (g.noteAll changes).note change := by
        simp [TaskHistory.noteAll]
      obtain ⟨taskId, written, rfl⟩ := hendings change (by simp)
      rw [hboard] at hstatus
      rw [hnoted]
      by_cases hself : ∃ ended, written = some (instanceId, ended)
      · obtain ⟨ended, rfl⟩ := hself
        have heq : status = ended := status_setStatus_self hstatus
        exact ⟨taskId, by rw [lastEnding_note_self, heq]⟩
      · have hbefore : ∃ taskId ended, .ending taskId (some (instanceId, ended)) ∈ changes := by
          obtain ⟨taskId', ended, hmem⟩ := hended
          rcases List.mem_append.mp hmem with hold | hnew
          · exact ⟨taskId', ended, hold⟩
          · have hchange := List.mem_singleton.mp hnew
            injection hchange with _ hwritten
            exact absurd ⟨ended, hwritten.symm⟩ hself
        cases written with
        | none => exact ih hearlier hstatus hbefore
        | some written =>
            obtain ⟨instanceId', ended⟩ := written
            have hne : instanceId ≠ instanceId' := by
              rintro rfl
              exact hself ⟨ended, rfl⟩
            rw [lastEnding_note_of_ne _ taskId ended hne]
            apply ih hearlier _ hbefore
            rw [← hstatus]
            exact (status_setStatus_of_ne ended hne).symm

/-! ### In every run -/

def DecidedInv (p : ServerState × TaskHistory) : Prop :=
  WaitsForOwnTask p.1 ∧ DecidedByEnding p.1.db.board p.2

theorem decidedInv_taskStep (deps : External) (p : ServerState × TaskHistory) (op : TaskOperation)
    (h : DecidedInv p) : DecidedInv (taskStep deps p op) := by
  refine ⟨waitsForOwnTask_perform deps p.1 op h.1, ?_⟩
  have hboard : (taskStep deps p op).1.db.board = p.1.db.board.afterAll (op.changes deps p.1) :=
    board_perform deps p.1 op
  rw [hboard]
  exact decidedByEnding_afterAll h.2 (along_allows_changes deps p.1 op h.1)

theorem endingsWritten_of_waits (deps : External) (p : ServerState × TaskHistory)
    (op : TaskOperation) (hwaits : WaitsForOwnTask p.1) : EndingsWritten deps p op := by
  intro instanceId status hstatus hended
  rw [board_perform] at hstatus
  rcases endings_changes deps p.1 op hwaits with
    ⟨taskId, kind, instanceId', pendingStatus, hchanges, -⟩ | hendings
  · obtain ⟨taskId', ended, hmem⟩ := hended
    rw [hchanges] at hmem
    exact nomatch List.mem_singleton.mp hmem
  · exact lastEnding_of_endings (fun change hmem => (hendings change hmem).1) hstatus hended

theorem statusOfLastEnding_of_decided (p : ServerState × TaskHistory) (h : DecidedInv p) :
    StatusOfLastEnding p := by
  intro instanceId status hstatus hquiet henqueued
  rcases h.2 instanceId status hstatus henqueued with ⟨taskId, kind, hlive⟩ | hlast
  · exact absurd hlive (hquiet taskId kind)
  · exact hlast

/-- The server before any task has been enqueued, whatever the other tables hold. -/
def taskStart (db : Db) : ServerState × TaskHistory :=
  ({ db := { db with agentTasks := .empty } }, {})

theorem last_ending_decides (deps : External) (db : Db) (ops : List TaskOperation) :
    Trace.Along (taskStep deps) (EndingsWritten deps) (taskStart db) ops ∧
      Trace.Always (taskStep deps) StatusOfLastEnding (taskStart db) ops := by
  have hstart : DecidedInv (taskStart db) := by
    constructor
    · intro id taskId hmem
      exact (List.not_mem_nil hmem).elim
    · rintro instanceId status - ⟨taskId, hmem⟩
      exact (List.not_mem_nil hmem).elim
  have hstep : ∀ p op, DecidedInv p → True → DecidedInv (taskStep deps p op) :=
    fun p op h _ => decidedInv_taskStep deps p op h
  have hall : Trace.Along (taskStep deps) (fun _ _ => True) (taskStart db) ops :=
    Trace.along_of_forall (fun _ _ => trivial) _ ops
  constructor
  · apply (hall.with_invariant hstep hstart).mono
    intro p op h
    exact endingsWritten_of_waits deps p op h.1.1
  · exact Trace.always_of_invariant hstep statusOfLastEnding_of_decided hstart hall

/-! ### The status of an earlier task -/

/-- A stop is enqueued and succeeds while the start before it is still running; the lease of the start
expires then. -/
def lateTimeoutOps : List TaskOperation :=
  [.startModelInstance "i" "t1", .pollAgentTask "n" none, .stopModelInstance "i" "t2",
    .pollAgentTask "n" none,
    .recordAgentTaskResult "t2" { nodeId := "n", status := "succeeded", result := .obj [] },
    .act (.tick 1031), .markTimedOutTasks]

theorem quiet_of_rows {db : Db} (h : ∀ task ∈ db.agentTasks.rows, task.live = none)
    (instanceId : String) : db.board.Quiet instanceId := by
  intro taskId kind hlive
  obtain ⟨task, htask, hfound⟩ := Option.bind_eq_some_iff.mp hlive
  have hnone := h task (Table.find?_mem htask)
  rw [hnone] at hfound
  exact nomatch hfound

theorem earlier_task_decides :
    ¬ (Trace.Along (taskStep noExternal) (EndingsOfNewest noExternal) (taskStart timeoutDb)
          lateTimeoutOps ∧
        Trace.Always (taskStep noExternal) StatusOfNewest (taskStart timeoutDb) lateTimeoutOps) := by
  rintro ⟨-, hstatus⟩
  have hlast := hstatus lateTimeoutOps [] (List.append_nil _).symm "i" "failed" "t2" "stopped"
  have hended : (Trace.run (taskStep noExternal) (taskStart timeoutDb)
      lateTimeoutOps).1.db.agentTasks.rows.map AgentTask.live = [none, none] := by rfl
  have hquiet : (Trace.run (taskStep noExternal) (taskStart timeoutDb)
      lateTimeoutOps).1.db.board.Quiet "i" := by
    apply quiet_of_rows
    intro task hmem
    have hlive := List.mem_map_of_mem (f := AgentTask.live) hmem
    rw [hended] at hlive
    simpa using hlive
  have heq : "failed" = "stopped" := hlast (by rfl) hquiet (by rfl) (by rfl)
  exact absurd heq (by decide)

end LightAI.Server
