import LightAI.Server.Requests

/-!
# How long a task stays ended

Four statements write the status of a task. Only the timeout looks at the status that is there: the
claim of a poll names the row by the id it selected earlier, and a result names it by the id in the
request. So an ended task is written again exactly when one of these two meets it.
-/

namespace LightAI.Server

open Interleaving

/-- `succeeded`, `failed` and `timed_out`. -/
def TaskStatus.isTerminal : TaskStatus → Bool
  | succeeded | failed | timedOut => true
  | _ => false

theorem TaskStatus.isTerminal_eq_not_isLive (status : TaskStatus) :
    status.isTerminal = !status.isLive := by
  cases status <;> rfl

/-- What is fixed once a task has ended: its status, its result and when it was completed. -/
def AgentTask.ending (task : AgentTask) : TaskStatus × Option Json × Option Int :=
  (task.status, task.resultJson, task.completedAt)

/-- Each task that has ended is still there and has ended the same way. -/
def EndingsKept (db db' : Db) : Prop :=
  ∀ id task, db.agentTasks.find? id = some task → task.status.isTerminal = true →
    ∃ task', db'.agentTasks.find? id = some task' ∧ task'.ending = task.ending

/-- A claim must not meet an ended task, and a committed result only one that it leaves as it is. -/
def Stmt.sparesEnded (db : Db) : Stmt → Prop
  | claimAgentTask selected _ _ =>
      ∀ task, db.agentTasks.find? selected.id = some task → task.status.isTerminal = false
  | recordResult selected status result now =>
      selected.resultCommits = true →
        ∀ task, db.agentTasks.find? selected.id = some task → task.status.isTerminal = true →
          task.ending = (status.toTaskStatus, some result, some now)
  | _ => True

theorem endingsKept_refl (db : Db) : EndingsKept db db :=
  fun _ task htask _ => ⟨task, htask, rfl⟩

theorem endingsKept_trans {db db' db'' : Db} (h : EndingsKept db db') (h' : EndingsKept db' db'') :
    EndingsKept db db'' := by
  intro id task htask hended
  obtain ⟨task', htask', hending'⟩ := h id task htask hended
  have hended' : task'.status.isTerminal = true := by
    have hstatus : task'.status = task.status := congrArg Prod.fst hending'
    rw [hstatus]
    exact hended
  obtain ⟨task'', htask'', hending''⟩ := h' id task' htask' hended'
  exact ⟨task'', htask'', hending''.trans hending'⟩

/-- The guard of the timeout, and nothing else, protects an ended task from a statement. -/
theorem onTask_ending_iff (stmt : Stmt) {task : AgentTask} (hended : task.status.isTerminal = true) :
    (stmt.onTask task).ending = task.ending ↔
      match stmt with
      | .claimAgentTask selected _ _ => task.id ≠ selected.id
      | .recordResult selected status result now =>
          task.id = selected.id → selected.resultCommits = true →
            task.ending = (status.toTaskStatus, some result, some now)
      | _ => True := by
  cases stmt with
  | claimAgentTask selected now leaseUntil =>
      simp only [Stmt.onTask]
      by_cases hid : task.id = selected.id
      · rw [if_pos hid]
        have hrunning : task.status ≠ .running := by
          rintro hstatus
          rw [hstatus] at hended
          cases hended
        have hne : (task.claim now leaseUntil).ending ≠ task.ending := by
          intro heq
          exact hrunning (congrArg Prod.fst heq).symm
        simp [hid, hne]
      · simp [hid]
  | recordResult selected status result now =>
      simp only [Stmt.onTask]
      by_cases hid : task.id = selected.id ∧ selected.resultCommits = true
      · have hfinish : (task.finish status result now).ending
            = (status.toTaskStatus, some result, some now) := rfl
        rw [if_pos hid, hfinish]
        constructor
        · intro h _ _
          exact h.symm
        · intro h
          exact (h hid.1 hid.2).symm
      · rw [if_neg hid]
        simp only [true_iff]
        intro hsame hcommits
        exact absurd ⟨hsame, hcommits⟩ hid
  | markTaskTimedOut taskId now =>
      have hnotLive : task.status.isLive = false := by
        rw [TaskStatus.isTerminal_eq_not_isLive] at hended
        simpa using hended
      simp [Stmt.onTask, hnotLive]
  | _ => simp [Stmt.onTask]

theorem endingsKept_exec_iff (stmt : Stmt) (db : Db) :
    EndingsKept db (stmt.exec db).2 ↔ stmt.sparesEnded db := by
  have hrow : EndingsKept db (stmt.exec db).2 ↔
      ∀ id task, db.agentTasks.find? id = some task → task.status.isTerminal = true →
        (stmt.onTask task).ending = task.ending := by
    constructor
    · intro h id task htask hended
      obtain ⟨task', htask', hending⟩ := h id task htask hended
      rw [find?_exec_of_some stmt htask] at htask'
      rwa [Option.some.inj htask']
    · intro h id task htask hended
      exact ⟨_, find?_exec_of_some stmt htask, h id task htask hended⟩
  rw [hrow]
  cases stmt with
  | claimAgentTask selected now leaseUntil =>
      constructor
      · intro h task htask
        by_contra hnot
        have hended : task.status.isTerminal = true := by simpa using hnot
        exact (onTask_ending_iff _ hended).mp (h _ task htask hended) (Table.find?_key htask)
      · intro h id task htask hended
        refine (onTask_ending_iff _ hended).mpr ?_
        rintro hid
        have hkey : task.id = id := Table.find?_key htask
        have hlive := h task (by rw [← hid, hkey]; exact htask)
        rw [hlive] at hended
        exact nomatch hended
  | recordResult selected status result now =>
      constructor
      · intro h hcommits task htask hended
        exact (onTask_ending_iff _ hended).mp (h _ task htask hended) (Table.find?_key htask) hcommits
      · intro h id task htask hended
        refine (onTask_ending_iff _ hended).mpr fun hid hcommits => ?_
        have hkey : task.id = id := Table.find?_key htask
        exact h hcommits task (by rw [← hid, hkey]; exact htask) hended
  | _ =>
      simp only [Stmt.sparesEnded, iff_true]
      intro id task _ hended
      exact (onTask_ending_iff _ hended).mpr trivial

/-- The statement that an event performs, if it performs one, spares the tasks that have ended. -/
def SparesEnded (c : ServerConfig) (e : ServerEvent) : Prop :=
  ∀ t stmt, System.performed c e = some (t, stmt) → stmt.sparesEnded c.shared

theorem endingsKept_apply_iff (deps : External) (c : ServerConfig) (e : ServerEvent) :
    EndingsKept c.shared ((server deps).apply c e).shared ↔ SparesEnded c e := by
  rcases System.apply_shared (M := server deps) c e with ⟨t, stmt, hperf, heq⟩ |
    ⟨hnone, action, heq⟩ | ⟨hnone, heq⟩
  · rw [heq]
    refine (endingsKept_exec_iff stmt c.shared).trans ?_
    constructor
    · intro h t' stmt' hperf'
      rw [hperf] at hperf'
      obtain ⟨-, rfl⟩ := Prod.mk.inj (Option.some.inj hperf')
      exact h
    · intro h
      exact h t stmt hperf
  · have hkept : EndingsKept c.shared ((server deps).apply c e).shared := by
      rw [heq]
      intro id task htask _
      exact ⟨task, by simpa [server] using htask, rfl⟩
    simp [hkept, SparesEnded, hnone]
  · have hkept : EndingsKept c.shared ((server deps).apply c e).shared := by
      rw [heq]
      exact endingsKept_refl _
    simp [hkept, SparesEnded, hnone]

/-- From any state, whatever requests are under way: in a run of the server, no task that has ended
ever changes its status, its result or its completion time if and only if no claim of the run meets a
task that has ended and no committed result does, other than one that repeats what is stored. -/
theorem ended_tasks_kept_iff (deps : External) (c : ServerConfig) (events : List ServerEvent) :
    Trace.Chain (server deps).apply (fun c c' => EndingsKept c.shared c'.shared) c events ↔
      Trace.Along (server deps).apply SparesEnded c events := by
  refine (Trace.chain_iff_along (fun c => endingsKept_refl c.shared) ?_).trans ?_
  · intro c c' c''
    exact endingsKept_trans
  constructor
  · intro h
    exact h.mono fun c e => (endingsKept_apply_iff deps c e).mp
  · intro h
    exact h.mono fun c e => (endingsKept_apply_iff deps c e).mpr

/-! Two polls select the same queued task. The first claims it and its result is recorded, then the
second claims it too. -/

def endedTaskDb : Db :=
  { clock := 1000
    nodes := oneNode
    agentTasks :=
      ⟨[NewAgentTask.row ⟨"t", "n", .readAgentLog, .obj [], 1000⟩], by decide⟩ }

def endedTaskEvents : List ServerEvent :=
  [.spawn (.pollAgentTask "n" none []), .spawn (.pollAgentTask "n" none [])]
    ++ List.replicate 4 (.step 0) ++ List.replicate 4 (.step 1) ++ [.step 0]
    ++ [.spawn (.recordAgentTaskResult "t"
      { nodeId := "n", status := "succeeded", result := .obj [] })]
    ++ List.replicate 3 (.step 2)

theorem ended_task_claimed_again :
    ¬ Trace.Chain (server noExternal).apply (fun c c' => EndingsKept c.shared c'.shared)
      { shared := endedTaskDb } (endedTaskEvents ++ [.step 1]) := by
  intro h
  have hkept := h endedTaskEvents [.step 1] [] rfl
  have hstatus : ((Trace.run (server noExternal).apply { shared := endedTaskDb }
      endedTaskEvents).shared.agentTasks.find? "t").map (·.status) = some .succeeded := by rfl
  have hlater : ((Trace.run (server noExternal).apply { shared := endedTaskDb }
      (endedTaskEvents ++ [.step 1])).shared.agentTasks.find? "t").map (·.status)
        = some .running := by rfl
  obtain ⟨task, htask, hsucceeded⟩ := Option.map_eq_some_iff.mp hstatus
  obtain ⟨task', htask', hending⟩ := hkept "t" task htask (by rw [hsucceeded]; rfl)
  rw [htask'] at hlater
  have hrunning : task'.status = .running := Option.some.inj hlater
  have hsame : task'.status = task.status := congrArg Prod.fst hending
  rw [hrunning, hsucceeded] at hsame
  exact nomatch hsame

end LightAI.Server
