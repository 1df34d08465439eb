import LightAI.Server.TimeoutTargets

/-!
# When a timeout writes a row

The statement that times a task out is guarded by the task's status, but nobody reads whether it has
found a row: the statement after it puts the row of the payload into the state of a timeout in any case.
So a result that is recorded in between is overwritten by the timeout of a task that has succeeded.
-/

namespace LightAI.Server

open Interleaving

/-! ### What is remembered of a run -/

/-- The tasks that a timeout has found `queued` or `running`, and for each row the task whose timeout
has written it, if no result has written it since. -/
structure TimeoutHistory where
  timedOut : List String := []
  writer : Entity → Option String := fun _ => none

/-- The row that a committed result writes. -/
def Stmt.resultTarget : Stmt → Option Entity
  | recordResult selected _ _ _ => if selected.resultCommits then selected.entity else none
  | _ => none

def TimeoutHistory.after (g : TimeoutHistory) (db : Db) (done : List Stmt) (stmt : Stmt) :
    TimeoutHistory where
  timedOut :=
    match stmt with
    | .markTaskTimedOut id _ => if db.liveTask id then id :: g.timedOut else g.timedOut
    | _ => g.timedOut
  writer entity :=
    match timeoutEffect done stmt with
    | some (id, target) => if entity = target then some id else g.writer entity
    | none => if stmt.resultTarget = some entity then none else g.writer entity

def recordTimeouts (c : ServerConfig) (e : ServerEvent) (g : TimeoutHistory) : TimeoutHistory :=
  match System.performed c e with
  | none => g
  | some (t, stmt) => g.after c.shared t.done stmt

/-- The server together with what is remembered of its run. -/
abbrev timeoutStep (deps : External) :
    ServerConfig × TimeoutHistory → ServerEvent → ServerConfig × TimeoutHistory :=
  Trace.withHistory (server deps).apply recordTimeouts

/-! ### What should hold, and when it does -/

/-- A row is put into the state of a timeout only for a task that has been timed out. -/
def WritesForTimedOut (p : ServerConfig × TimeoutHistory) (e : ServerEvent) : Prop :=
  ∀ t stmt id entity, System.performed p.1 e = some (t, stmt) → timeoutCause t.done = some id →
    stmt.timeoutTarget = some entity → id ∈ p.2.timedOut

/-- No task that has succeeded has left its row to its timeout. -/
def NoneLeftBySucceeded (p : ServerConfig × TimeoutHistory) : Prop :=
  ∀ entity id task, p.2.writer entity = some id → p.1.shared.agentTasks.find? id = some task →
    task.status ≠ .succeeded

/-- The statement that times a task out finds it `queued` or `running`, unless the task names no row or
has been timed out before; a row is written for a task's timeout only while the task has not succeeded. -/
def TimeoutHistory.permits (g : TimeoutHistory) (db : Db) (done : List Stmt) (stmt : Stmt) : Bool :=
  (match stmt with
    | .markTaskTimedOut id _ =>
        (db.agentTasks.find? id).any fun task =>
          task.entity.isNone || task.status.isLive || g.timedOut.contains id
    | _ => true)
  && match timeoutEffect done stmt with
    | some (id, _) => (db.agentTasks.find? id).all (·.status ≠ .succeeded)
    | none => true

def TimeoutsInTime (p : ServerConfig × TimeoutHistory) (e : ServerEvent) : Prop :=
  (match System.performed p.1 e with
    | none => true
    | some (t, stmt) => p.2.permits p.1.shared t.done stmt) = true

instance (p : ServerConfig × TimeoutHistory) (e : ServerEvent) : Decidable (TimeoutsInTime p e) :=
  inferInstanceAs (Decidable (_ = true))

/-! ### Every run -/

/-- The thread has timed out a task that has really been timed out, or one whose payload names no row. -/
def CauseTimedOut (g : TimeoutHistory) (db : Db) (done : List Stmt) : Prop :=
  ∀ id, timeoutCause done = some id → id ∈ g.timedOut ∨ TaskNames db id none

structure TimeoutInv (deps : External) (c : ServerConfig) (g : TimeoutHistory) : Prop where
  verifies : VerifyTasksMatch c.shared
  names : System.AllRobust (server deps) TimeoutRely NamesMatch (IfOk fun _ _ _ => True) c
  causes : ∀ t ∈ c.threads, CauseTimedOut g c.shared t.done
  written : ∀ entity id, g.writer entity = some id → TaskNames c.shared id (some entity)
  unsucceeded : NoneLeftBySucceeded (c, g)

theorem timedOut_subset (g : TimeoutHistory) (db : Db) (done : List Stmt) (stmt : Stmt) :
    g.timedOut ⊆ (g.after db done stmt).timedOut := by
  intro id hid
  cases stmt with
  | markTaskTimedOut taskId now =>
      simp only [TimeoutHistory.after]
      by_cases hlive : db.liveTask taskId = true
      · rw [if_pos hlive]
        exact List.mem_cons_of_mem taskId hid
      · rwa [if_neg hlive]
  | _ => exact hid

theorem permits_mark {g : TimeoutHistory} {db : Db} {done : List Stmt} {id : String} {now : Int}
    (h : g.permits db done (.markTaskTimedOut id now) = true) :
    id ∈ (g.after db done (.markTaskTimedOut id now)).timedOut ∨ TaskNames db id none := by
  unfold TimeoutHistory.permits at h
  rw [Bool.and_eq_true] at h
  obtain ⟨task, htask, hcases⟩ := (Option.any_eq_true _ _).mp h.1
  rw [Bool.or_eq_true, Bool.or_eq_true] at hcases
  rcases hcases with (hnone | hlive) | hmem
  · exact .inr ⟨task, htask, Option.isNone_iff_eq_none.mp hnone⟩
  · have hfound : db.liveTask id = true := (Option.any_eq_true _ _).mpr ⟨task, htask, hlive⟩
    left
    simp only [TimeoutHistory.after]
    rw [if_pos hfound]
    exact List.mem_cons_self
  · exact .inl (timedOut_subset g db done _ (by simpa using hmem))

theorem permits_effect {g : TimeoutHistory} {db : Db} {done : List Stmt} {stmt : Stmt} {id : String}
    {entity : Entity} (h : g.permits db done stmt = true)
    (heffect : timeoutEffect done stmt = some (id, entity)) {task : AgentTask}
    (htask : db.agentTasks.find? id = some task) : task.status ≠ .succeeded := by
  unfold TimeoutHistory.permits at h
  rw [Bool.and_eq_true, heffect] at h
  have hall := h.2
  simp only [htask] at hall
  simpa using hall

theorem causeTimedOut_cons {g : TimeoutHistory} {db : Db} {done : List Stmt} {stmt : Stmt}
    (hpermits : g.permits db done stmt = true) (h : CauseTimedOut g db done) :
    CauseTimedOut (g.after db done stmt) (stmt.exec db).2 (stmt :: done) := by
  have hkeep : timeoutCause (stmt :: done) = timeoutCause done →
      CauseTimedOut (g.after db done stmt) (stmt.exec db).2 (stmt :: done) := by
    intro hsame id hid
    rw [hsame] at hid
    rcases h id hid with hmem | hnames
    · exact .inl (timedOut_subset g db done stmt hmem)
    · exact .inr (taskNames_exec stmt hnames)
  cases stmt with
  | markTaskTimedOut taskId now =>
      intro id hid
      obtain rfl : taskId = id := Option.some.inj hid
      rcases permits_mark hpermits with hmem | hnames
      · exact .inl hmem
      · exact .inr (taskNames_exec _ hnames)
  | _ => exact hkeep rfl

theorem writer_after {g : TimeoutHistory} {db : Db} {done : List Stmt} {stmt : Stmt}
    {entity : Entity} {id : String} (h : (g.after db done stmt).writer entity = some id) :
    timeoutEffect done stmt = some (id, entity) ∨
      (g.writer entity = some id ∧
        (timeoutEffect done stmt = none → stmt.resultTarget ≠ some entity)) := by
  simp only [TimeoutHistory.after] at h
  cases heffect : timeoutEffect done stmt with
  | some effect =>
      obtain ⟨id', target⟩ := effect
      rw [heffect] at h
      dsimp only at h
      by_cases htarget : entity = target
      · rw [if_pos htarget] at h
        rw [Option.some.inj h, htarget]
        exact .inl rfl
      · rw [if_neg htarget] at h
        exact .inr ⟨h, fun hnone => nomatch hnone⟩
  | none =>
      rw [heffect] at h
      dsimp only at h
      by_cases hresult : stmt.resultTarget = some entity
      · rw [if_pos hresult] at h
        exact nomatch h
      · rw [if_neg hresult] at h
        exact .inr ⟨h, fun _ => hresult⟩

theorem timeoutEffect_recordResult (done : List Stmt) (selected : AgentTask) (status : ResultStatus)
    (result : Json) (now : Int) :
    timeoutEffect done (.recordResult selected status result now) = none := by
  cases hcause : timeoutCause done <;> simp [timeoutEffect, Stmt.timeoutTarget, hcause]

/-- Only a committed result lets a task succeed. -/
theorem onTask_succeeded {stmt : Stmt} {task : AgentTask}
    (h : (stmt.onTask task).status = .succeeded) :
    task.status = .succeeded ∨ ∃ selected status result now,
      stmt = .recordResult selected status result now ∧ task.id = selected.id ∧
        selected.resultCommits = true := by
  cases stmt with
  | claimAgentTask selected now leaseUntil =>
      simp only [Stmt.onTask] at h
      by_cases hid : task.id = selected.id
      · rw [if_pos hid] at h
        cases h
      · rw [if_neg hid] at h
        exact .inl h
  | markTaskTimedOut taskId now =>
      simp only [Stmt.onTask] at h
      by_cases hid : task.id = taskId ∧ task.status.isLive = true
      · rw [if_pos hid] at h
        cases h
      · rw [if_neg hid] at h
        exact .inl h
  | recordResult selected status result now =>
      simp only [Stmt.onTask] at h
      by_cases hid : task.id = selected.id ∧ selected.resultCommits = true
      · exact .inr ⟨selected, status, result, now, rfl, hid.1, hid.2⟩
      · rw [if_neg hid] at h
        exact .inl h
  | _ => exact .inl h

theorem written_after {g : TimeoutHistory} {db : Db} {done : List Stmt} {stmt : Stmt}
    (hpre : NamesMatch done db stmt)
    (h : ∀ entity id, g.writer entity = some id → TaskNames db id (some entity)) :
    ∀ entity id, (g.after db done stmt).writer entity = some id →
      TaskNames (stmt.exec db).2 id (some entity) := by
  intro entity id hwriter
  rcases writer_after hwriter with heffect | ⟨hbefore, -⟩
  · exact taskNames_exec stmt (hpre.1 id entity heffect)
  · exact taskNames_exec stmt (h entity id hbefore)

theorem unsucceeded_after {g : TimeoutHistory} {db : Db} {done : List Stmt} {stmt : Stmt}
    (hpre : NamesMatch done db stmt) (hpermits : g.permits db done stmt = true)
    (hwritten : ∀ entity id, g.writer entity = some id → TaskNames db id (some entity))
    (h : ∀ entity id task, g.writer entity = some id → db.agentTasks.find? id = some task →
      task.status ≠ .succeeded) :
    ∀ entity id task, (g.after db done stmt).writer entity = some id →
      (stmt.exec db).2.agentTasks.find? id = some task → task.status ≠ .succeeded := by
  intro entity id task hwriter htask hsucceeded
  obtain ⟨stored, hstored, hentity⟩ : TaskNames db id (some entity) := by
    rcases writer_after hwriter with heffect | ⟨hbefore, -⟩
    · exact hpre.1 id entity heffect
    · exact hwritten entity id hbefore
  rw [find?_exec_of_some stmt hstored] at htask
  obtain rfl := Option.some.inj htask
  have hnot : stored.status ≠ .succeeded := by
    rcases writer_after hwriter with heffect | ⟨hbefore, -⟩
    · exact permits_effect hpermits heffect hstored
    · exact h entity id stored hbefore hstored
  rcases onTask_succeeded hsucceeded with hbefore | ⟨selected, status, result, now, rfl, hid, hcommits⟩
  · exact hnot hbefore
  -- The result has been written to the row that the timeout had written.
  · have hnone := timeoutEffect_recordResult done selected status result now
    have hkey : stored.id = id := Table.find?_key hstored
    obtain ⟨stored', hstored', hsame⟩ : TaskNames db selected.id selected.entity := hpre.2
    have heq : stored' = stored := by
      rw [← hid, hkey, hstored] at hstored'
      exact (Option.some.inj hstored').symm
    have htarget : selected.entity = some entity := by rw [← hsame, heq, hentity]
    rcases writer_after hwriter with heffect | ⟨-, hresult⟩
    · rw [hnone] at heffect
      exact nomatch heffect
    · refine hresult hnone ?_
      simp only [Stmt.resultTarget]
      rw [if_pos hcommits, htarget]

/-- What a statement of the run does to the invariant, apart from the threads. -/
theorem TimeoutInv.performed {deps : External} {c : ServerConfig} {g : TimeoutHistory}
    {e : ServerEvent} {t : ServerThread} {stmt : Stmt} (hinv : TimeoutInv deps c g)
    (hperf : System.performed c e = some (t, stmt)) : NamesMatch t.done c.shared stmt :=
  System.AllRobust.performed timeoutRely_refl hinv.names hperf

theorem recordTimeouts_of_performed {c : ServerConfig} {e : ServerEvent} {g : TimeoutHistory}
    {t : ServerThread} {stmt : Stmt} (hperf : System.performed c e = some (t, stmt)) :
    recordTimeouts c e g = g.after c.shared t.done stmt := by
  simp [recordTimeouts, hperf]

theorem timeoutInv_apply (deps : External) (c : ServerConfig) (g : TimeoutHistory) (e : ServerEvent)
    (hinv : TimeoutInv deps c g) (hok : TimeoutsInTime (c, g) e) :
    TimeoutInv deps ((server deps).apply c e) (recordTimeouts c e g) := by
  have hrely : TimeoutRely c.shared ((server deps).apply c e).shared := by
    rcases System.apply_shared (M := server deps) c e with ⟨t, stmt, hperf, heq⟩ |
      ⟨-, action, heq⟩ | ⟨-, heq⟩
    · rw [heq]
      exact timeoutRely_exec (hinv.performed hperf)
    · rw [heq]
      exact timeoutRely_act action c.shared
    · rw [heq]
      exact timeoutRely_refl c.shared
  have hnames : System.AllRobust (server deps) TimeoutRely NamesMatch (IfOk fun _ _ _ => True)
      ((server deps).apply c e) := by
    have hhandle : ∀ (request : Request) (db : Db), VerifyTasksMatch db →
        Names (fun _ _ _ => True) [] db (request.handler deps) :=
      fun request _ hdb => names_handler deps request hdb
    have hvalue : ∀ done (db db' : Db) (value : Outcome), TimeoutRely db db' →
        IfOk (fun _ _ _ => True) done db value → IfOk (fun _ _ _ => True) done db' value := by
      rintro done db db' (e | response) _ _ <;> trivial
    exact System.allRobust_apply timeoutRely_refl (fun _ _ _ => timeoutRely_trans) hvalue
      (fun _ _ _ hpre => timeoutRely_exec hpre) timeoutRely_act hhandle c e hinv.verifies
      hinv.names
  cases hperf : System.performed c e with
  | none =>
      have hsame : recordTimeouts c e g = g := by simp [recordTimeouts, hperf]
      have htasks : ((server deps).apply c e).shared.agentTasks = c.shared.agentTasks := by
        rcases System.apply_shared (M := server deps) c e with ⟨t, stmt, hsome, -⟩ |
          ⟨-, action, heq⟩ | ⟨-, heq⟩
        · rw [hperf] at hsome
          exact nomatch hsome
        · rw [heq]
          exact act_agentTasks action c.shared
        · rw [heq]
      rw [hsame]
      refine ⟨hrely.1 hinv.verifies, hnames, ?_, ?_, ?_⟩
      · intro t' ht'
        rcases System.apply_done ht' with hnil | ⟨t, ht, hdone⟩ | ⟨t, stmt, hsome, -, -⟩
        · rw [hnil]
          exact fun _ hid => nomatch hid
        · rw [hdone]
          intro id hid
          exact (hinv.causes t ht id hid).imp_right (hrely.2 id none)
        · rw [hperf] at hsome
          exact nomatch hsome
      · intro entity id hwriter
        exact hrely.2 id _ (hinv.written entity id hwriter)
      · intro entity id task hwriter htask
        rw [htasks] at htask
        exact hinv.unsucceeded entity id task hwriter htask
  | some performed =>
      obtain ⟨t, stmt⟩ := performed
      have hpre := hinv.performed hperf
      have hpermits : g.permits c.shared t.done stmt = true := by
        simpa [TimeoutsInTime, hperf] using hok
      have hshared : ((server deps).apply c e).shared = (stmt.exec c.shared).2 := by
        rcases System.apply_shared (M := server deps) c e with ⟨t', stmt', hperf', heq⟩ |
          ⟨hnone, -⟩ | ⟨hnone, -⟩
        · rw [hperf] at hperf'
          obtain ⟨-, rfl⟩ := Prod.mk.inj (Option.some.inj hperf')
          exact heq
        · rw [hperf] at hnone
          exact nomatch hnone
        · rw [hperf] at hnone
          exact nomatch hnone
      rw [recordTimeouts_of_performed hperf]
      refine ⟨hrely.1 hinv.verifies, hnames, ?_, ?_, ?_⟩
      · intro t' ht'
        have hold : ∀ t' ∈ c.threads,
            CauseTimedOut (g.after c.shared t.done stmt) ((server deps).apply c e).shared t'.done := by
          intro t' ht' id hid
          rcases hinv.causes t' ht' id hid with hmem | hnone
          · exact .inl (timedOut_subset g c.shared t.done stmt hmem)
          · exact .inr (hrely.2 id none hnone)
        rcases System.apply_done ht' with hnil | ⟨t₀, ht₀, hdone⟩ | ⟨t₀, stmt₀, hsome, ht₀, hdone⟩
        · rw [hnil]
          exact fun _ hid => nomatch hid
        · rw [hdone]
          exact hold t₀ ht₀
        · rw [hperf] at hsome
          obtain ⟨rfl, rfl⟩ := Prod.mk.inj (Option.some.inj hsome)
          rw [hdone, hshared]
          exact causeTimedOut_cons hpermits (hinv.causes t ht₀)
      · rw [hshared]
        exact written_after hpre hinv.written
      · intro entity id task hwriter htask
        rw [hshared] at htask
        exact unsucceeded_after hpre hpermits hinv.written hinv.unsucceeded entity id task hwriter
          htask

theorem writesForTimedOut_of_inv {deps : External} {c : ServerConfig} {g : TimeoutHistory}
    (hinv : TimeoutInv deps c g) (e : ServerEvent) : WritesForTimedOut (c, g) e := by
  intro t stmt id entity hperf hcause htarget
  have heffect : timeoutEffect t.done stmt = some (id, entity) := by
    cases stmt with
    | expireModelFile file now => cases htarget
    | _ => simp only [timeoutEffect, hcause, htarget]
  obtain ⟨task, htask, hentity⟩ := (hinv.performed hperf).1 id entity heffect
  rcases hinv.causes t (System.mem_of_performed hperf) id hcause with hmem | ⟨task', htask', hnone⟩
  · exact hmem
  · rw [htask] at htask'
    obtain rfl := Option.some.inj htask'
    rw [hentity] at hnone
    cases hnone

/-- The server with no tasks and no model files, before any request. -/
def timeoutStart (db : Db) : ServerConfig × TimeoutHistory :=
  ({ shared := { db with agentTasks := .empty, modelFiles := .empty } }, {})

theorem timeoutInv_start (deps : External) (db : Db) :
    TimeoutInv deps (timeoutStart db).1 (timeoutStart db).2 where
  verifies := fun _ hfile => nomatch hfile
  names := fun _ ht => nomatch ht
  causes := fun _ ht => nomatch ht
  written := fun _ _ hwriter => nomatch hwriter
  unsucceeded := fun _ _ _ hwriter => nomatch hwriter

/-- In a run in which every timeout finds its task `queued` or `running` (or has found it so before)
and no row is written for the timeout of a task that has succeeded meanwhile: a row is put into the state
of a timeout only for a task that has been timed out, and no task that has succeeded has left its row to
its timeout. -/
theorem timeouts_spare_succeeded (deps : External) (db : Db) (events : List ServerEvent)
    (hok : Trace.Along (timeoutStep deps) TimeoutsInTime (timeoutStart db) events) :
    Trace.Along (timeoutStep deps) WritesForTimedOut (timeoutStart db) events ∧
      Trace.Always (timeoutStep deps) NoneLeftBySucceeded (timeoutStart db) events := by
  have hstep : ∀ (p : ServerConfig × TimeoutHistory) e, TimeoutInv deps p.1 p.2 →
      TimeoutsInTime p e → TimeoutInv deps (timeoutStep deps p e).1 (timeoutStep deps p e).2 :=
    fun p e hinv hpermitted => timeoutInv_apply deps p.1 p.2 e hinv hpermitted
  have hinit := timeoutInv_start deps db
  constructor
  · have halong := hok.with_invariant hstep hinit
    exact halong.mono fun p e h => writesForTimedOut_of_inv h.1 e
  · exact Trace.always_of_invariant hstep (fun p hinv => hinv.unsucceeded) hinit hok

/-! A request starts an instance and waits for its task until the deadline. In the first run nobody has
polled for the task, in the second its result is recorded after the request has read the row for the last
time. -/

def timeoutDb : Db :=
  { clock := 1000
    nodes := oneNode
    runtimeEnvironments :=
      ⟨[{ id := "r", nodeId := some "n", name := "runtime", backend := "ollama"
          deployType := "binary", checkStatus := some "available", createdAt := 0
          updatedAt := 0 }], by decide⟩
    modelInstances :=
      ⟨[{ id := "i", nodeId := some "n", runtimeEnvironmentId := some "r", name := "chat"
          backend := "ollama", deployType := "local", status := "stopped", createdAt := 0
          updatedAt := 0 }], by decide⟩ }

/-- The request up to the statement that times its task out. -/
def waitedEvents : List ServerEvent :=
  .spawn (.startModelInstance "i" "t" 0) :: List.replicate 9 (.step 0)

def resultEvents : List ServerEvent :=
  .spawn (.recordAgentTaskResult "t" { nodeId := "n", status := "succeeded", result := .obj [] })
    :: List.replicate 3 (.step 1)

theorem timeouts_spare_succeeded_unpolled :
    Trace.Along (timeoutStep noExternal) WritesForTimedOut (timeoutStart timeoutDb)
        (waitedEvents ++ List.replicate 3 (.step 0)) ∧
      Trace.Always (timeoutStep noExternal) NoneLeftBySucceeded (timeoutStart timeoutDb)
        (waitedEvents ++ List.replicate 3 (.step 0)) :=
  timeouts_spare_succeeded noExternal timeoutDb _ (by decide +kernel)

theorem succeeded_start_left_failed :
    ¬ (Trace.Along (timeoutStep noExternal) WritesForTimedOut (timeoutStart timeoutDb)
          (waitedEvents ++ resultEvents ++ List.replicate 3 (.step 0)) ∧
        Trace.Always (timeoutStep noExternal) NoneLeftBySucceeded (timeoutStart timeoutDb)
          (waitedEvents ++ resultEvents ++ List.replicate 3 (.step 0))) := by
  rintro ⟨-, hnone⟩
  have hlast := hnone _ [] (List.append_nil _).symm
  have hwriter : (Trace.run (timeoutStep noExternal) (timeoutStart timeoutDb)
      (waitedEvents ++ resultEvents ++ List.replicate 3 (.step 0))).2.writer (.instance "i")
        = some "t" := by rfl
  have hstatus : ((Trace.run (timeoutStep noExternal) (timeoutStart timeoutDb)
      (waitedEvents ++ resultEvents ++ List.replicate 3 (.step 0))).1.shared.agentTasks.find?
        "t").map (·.status) = some .succeeded := by rfl
  obtain ⟨task, htask, hsucceeded⟩ := Option.map_eq_some_iff.mp hstatus
  exact hlast (.instance "i") "t" task hwriter htask hsucceeded

end LightAI.Server
