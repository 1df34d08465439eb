import Mathlib
import LightAI.Server.Effects

/-!
# Local instances and their tasks in flight

What the requests on instances are about, apart from the tables: which tasks of local instances are in
flight, and the status of each local instance. A statement changes this board in one of a few ways, and
the rest of the database does not matter to it.
-/

namespace LightAI.Server

structure Board where
  /-- The kind and the instance of a task in flight. -/
  live : String → Option (TaskKind × String)
  /-- The status of a local instance. -/
  status : String → Option String

inductive Change where
  | enqueue (taskId : String) (kind : TaskKind) (instanceId status : String)
  /-- A task ends; with it a status may be written to an instance. -/
  | ending (taskId : String) (written : Option (String × String))
  | setStatus (instanceId status : String)
  | remove (instanceId : String)
  deriving DecidableEq

namespace Board

def finish (b : Board) (taskId : String) : Board :=
  { b with live := Function.update b.live taskId none }

def setStatus (b : Board) (instanceId status : String) : Board :=
  { b with
    status := Function.update b.status instanceId ((b.status instanceId).map fun _ => status) }

def after (b : Board) : Change → Board
  | .enqueue taskId kind instanceId status =>
      { b with live := Function.update b.live taskId (some (kind, instanceId)) }.setStatus instanceId
        status
  | .ending taskId (some (instanceId, status)) => (b.finish taskId).setStatus instanceId status
  | .ending taskId none => b.finish taskId
  | .setStatus instanceId status => b.setStatus instanceId status
  | .remove instanceId => { b with status := Function.update b.status instanceId none }

def afterAll (b : Board) (changes : List Change) : Board := changes.foldl after b

@[simp]
theorem afterAll_nil (b : Board) : b.afterAll [] = b := rfl

@[simp]
theorem afterAll_cons (b : Board) (change : Change) (changes : List Change) :
    b.afterAll (change :: changes) = (b.after change).afterAll changes := rfl

theorem afterAll_append (b : Board) (first second : List Change) :
    b.afterAll (first ++ second) = (b.afterAll first).afterAll second := by
  simp [afterAll]

end Board

/-- The kind and the instance of a task that is in flight for an instance. -/
def AgentTask.live (task : AgentTask) : Option (TaskKind × String) :=
  match task.status.isLive, task.entity with
  | true, some (.instance instanceId) => some (task.kind, instanceId)
  | _, _ => none

def ModelInstance.localStatus (row : ModelInstance) : Option String :=
  if row.deployType = "local" then some row.status else none

def Db.board (db : Db) : Board where
  live taskId := (db.agentTasks.find? taskId).bind AgentTask.live
  status instanceId := (db.modelInstances.find? instanceId).bind ModelInstance.localStatus

theorem board_congr {db db' : Db} (htasks : db'.agentTasks = db.agentTasks)
    (hinstances : db'.modelInstances = db.modelInstances) : db'.board = db.board := by
  simp only [Db.board, htasks, hinstances]

theorem board_live_eq_some {db : Db} {taskId instanceId : String} {kind : TaskKind} :
    db.board.live taskId = some (kind, instanceId) ↔
      ∃ task, db.agentTasks.find? taskId = some task ∧ task.status.isLive = true ∧
        task.kind = kind ∧ task.entity = some (.instance instanceId) := by
  simp only [Db.board, Option.bind_eq_some_iff]
  constructor
  · rintro ⟨task, htask, hlive⟩
    unfold AgentTask.live at hlive
    split at hlive
    · rename_i hstatus hentity
      obtain ⟨rfl, rfl⟩ := Prod.mk.inj (Option.some.inj hlive)
      exact ⟨task, htask, hstatus, rfl, hentity⟩
    · cases hlive
  · rintro ⟨task, htask, hstatus, rfl, hentity⟩
    refine ⟨task, htask, ?_⟩
    simp only [AgentTask.live, hstatus, hentity]

theorem board_status_eq_some {db : Db} {instanceId status : String} :
    db.board.status instanceId = some status ↔
      ∃ row, db.modelInstances.find? instanceId = some row ∧ row.deployType = "local" ∧
        row.status = status := by
  simp only [Db.board, Option.bind_eq_some_iff, ModelInstance.localStatus]
  constructor
  · rintro ⟨row, hrow, hstatus⟩
    by_cases hlocal : row.deployType = "local"
    · rw [if_pos hlocal] at hstatus
      exact ⟨row, hrow, hlocal, Option.some.inj hstatus⟩
    · rw [if_neg hlocal] at hstatus
      cases hstatus
  · rintro ⟨row, hrow, hlocal, rfl⟩
    exact ⟨row, hrow, if_pos hlocal⟩

theorem live_eq_none_of_not_isLive {task : AgentTask} (h : task.status.isLive = false) :
    task.live = none := by
  simp only [AgentTask.live, h]

/-- A task row is changed on its own: the others stay in flight as they were. -/
theorem board_update_task (db : Db) {taskId : String} {f : AgentTask → AgentTask}
    {hf : ∀ task, (f task).id = task.id} (hended : ∀ task, (f task).status.isLive = false) :
    { db with agentTasks := db.agentTasks.update taskId f hf }.board = db.board.finish taskId := by
  simp only [Db.board, Board.finish, Board.mk.injEq, and_true]
  funext id
  rw [Table.find?_update]
  by_cases hid : id = taskId
  · subst hid
    rw [if_pos rfl, Function.update_self]
    cases db.agentTasks.find? id with
    | none => rfl
    | some task => exact live_eq_none_of_not_isLive (hended task)
  · rw [if_neg hid, Function.update_of_ne hid]

theorem timedOut_live (taskId : String) (now : Int) (task : AgentTask) :
    ((Stmt.markTaskTimedOut taskId now).onTask task).live
      = if task.id = taskId then none else task.live := by
  simp only [Stmt.onTask]
  by_cases hid : task.id = taskId
  · by_cases hlive : task.status.isLive = true
    · rw [if_pos ⟨hid, hlive⟩, if_pos hid]
      exact live_eq_none_of_not_isLive rfl
    · rw [if_neg fun h => hlive h.2, if_pos hid]
      exact live_eq_none_of_not_isLive (by simpa using hlive)
  · rw [if_neg fun h => hid h.1, if_neg hid]

theorem board_markTaskTimedOut (db : Db) (taskId : String) (now : Int) :
    ((Stmt.markTaskTimedOut taskId now).exec db).2.board = db.board.finish taskId := by
  rcases exec_agentTasks (.markTaskTimedOut taskId now) db with ⟨task, hnone, -⟩ | hfind
  · exact nomatch hnone
  simp only [Db.board, Board.finish, Board.mk.injEq]
  refine ⟨?_, rfl⟩
  funext id
  rw [hfind id]
  by_cases hid : id = taskId
  · rw [hid, Function.update_self]
    cases hstored : db.agentTasks.find? taskId with
    | none => rfl
    | some task =>
        rw [Option.map_some, Option.bind_some, timedOut_live, if_pos (Table.find?_key hstored)]
  · rw [Function.update_of_ne hid]
    cases hstored : db.agentTasks.find? id with
    | none => rfl
    | some task =>
        have hne : task.id ≠ taskId := by rwa [Table.find?_key hstored]
        rw [Option.map_some, Option.bind_some, timedOut_live, if_neg hne]
        rfl

/-- A write of the status of one instance. -/
theorem board_update_instance (db : Db) (instanceId status : String)
    {f : ModelInstance → ModelInstance} {hf : ∀ row, (f row).id = row.id}
    (hdeploy : ∀ row, (f row).deployType = row.deployType) (hstatus : ∀ row, (f row).status = status) :
    { db with modelInstances := db.modelInstances.update instanceId f hf }.board
      = db.board.setStatus instanceId status := by
  simp only [Db.board, Board.setStatus, Board.mk.injEq, true_and]
  funext id
  rw [Table.find?_update]
  by_cases hid : id = instanceId
  · subst hid
    rw [if_pos rfl, Function.update_self]
    cases db.modelInstances.find? id with
    | none => rfl
    | some row =>
        simp only [Option.map_some, Option.bind_some, ModelInstance.localStatus, hdeploy, hstatus]
        by_cases hlocal : row.deployType = "local"
        · rw [if_pos hlocal, if_pos hlocal, Option.map_some]
        · rw [if_neg hlocal, if_neg hlocal, Option.map_none]
  · rw [if_neg hid, Function.update_of_ne hid]

theorem board_updateInstanceCheck (db : Db) (instanceId status : String) (error : Option String)
    (now : Int) : ((Stmt.updateInstanceCheck instanceId status error now).exec db).2.board
      = db.board.setStatus instanceId status :=
  board_update_instance db instanceId status (fun _ => rfl) fun _ => rfl

/-- A write of an instance that leaves the status of a local one as it is. -/
theorem board_update_instance_of_same {db : Db} {instanceId : String}
    {f : ModelInstance → ModelInstance} {hf : ∀ row, (f row).id = row.id}
    (hsame : ∀ row, db.modelInstances.find? instanceId = some row →
      (f row).localStatus = row.localStatus) :
    { db with modelInstances := db.modelInstances.update instanceId f hf }.board = db.board := by
  simp only [Db.board, Board.mk.injEq, true_and]
  funext id
  rw [Table.find?_update]
  by_cases hid : id = instanceId
  · subst hid
    rw [if_pos rfl]
    cases hfind : db.modelInstances.find? id with
    | none => rfl
    | some row => exact hsame row hfind
  · rw [if_neg hid]

theorem board_deleteModelInstance (db : Db) (instanceId : String) :
    ((Stmt.deleteModelInstance instanceId).exec db).2.board
      = db.board.after (.remove instanceId) := by
  simp only [Db.board, Board.after, Board.mk.injEq, Stmt.exec, true_and]
  funext id
  rw [Table.find?_delete]
  by_cases hid : id = instanceId
  · rw [if_pos hid, hid, Function.update_self]
    rfl
  · rw [if_neg hid, Function.update_of_ne hid]

/-! ### Enqueueing, claiming, results -/

theorem board_enqueueInstanceTask {task : NewAgentTask} {instanceId pendingStatus : String}
    {now : Int} {db : Db} (hentity : task.row.entity = some (.instance instanceId))
    (hok : ((Stmt.enqueueInstanceTask task instanceId pendingStatus now).exec db).1 = true) :
    ((Stmt.enqueueInstanceTask task instanceId pendingStatus now).exec db).2.board
      = db.board.after (.enqueue task.id task.kind instanceId pendingStatus) := by
  have hinsert : ∃ table, db.agentTasks.insert? task.row = some table ∧
      ((Stmt.enqueueInstanceTask task instanceId pendingStatus now).exec db).2
        = { db with
            agentTasks := table
            modelInstances := db.modelInstances.update instanceId (·.pending pendingStatus now)
              fun _ => rfl } := by
    simp only [Stmt.exec, insertTask, insertRow] at hok ⊢
    split at hok
    · rename_i hallowed
      rw [if_pos hallowed]
      cases hrow : db.agentTasks.insert? task.row with
      | none => simp [hrow] at hok
      | some table => exact ⟨table, rfl, rfl⟩
    · cases hok
  obtain ⟨table, htable, heq⟩ := hinsert
  have hqueued : ({ db with agentTasks := table } : Db).board
      = { db.board with
          live := Function.update db.board.live task.id (some (task.kind, instanceId)) } := by
    simp only [Db.board, Board.mk.injEq, and_true]
    funext id
    rw [Table.find?_insert? htable]
    by_cases hid : id = task.id
    · have hkey : id = task.row.id := hid
      rw [if_pos hkey, hid, Function.update_self, Option.bind_some]
      simp only [AgentTask.live, hentity]
      rfl
    · have hkey : ¬ id = task.row.id := hid
      rw [if_neg hkey, Function.update_of_ne hid]
  have hpending : ({ db with
      agentTasks := table
      modelInstances := db.modelInstances.update instanceId (·.pending pendingStatus now)
        fun _ => rfl } : Db).board
      = ({ db with agentTasks := table } : Db).board.setStatus instanceId pendingStatus :=
    board_update_instance { db with agentTasks := table } instanceId pendingStatus (fun _ => rfl)
      fun _ => rfl
  rw [heq, hpending, hqueued]
  rfl

theorem insertTask_refused {db : Db} {task : NewAgentTask} {commit : Db → Db}
    (h : (insertTask db task commit).1 = false) : (insertTask db task commit).2 = db :=
  insertRow_refused h

theorem claimed_live {selected task : AgentTask} {now leaseUntil : Int}
    (hlive : task.id = selected.id → task.status.isLive = true) :
    ((Stmt.claimAgentTask selected now leaseUntil).onTask task).live = task.live := by
  simp only [Stmt.onTask]
  by_cases hid : task.id = selected.id
  · rw [if_pos hid]
    simp only [AgentTask.live, hlive hid]
    rfl
  · rw [if_neg hid]

/-- The claim of a task in flight leaves it in flight. -/
theorem board_claimAgentTask {db : Db} {selected : AgentTask}
    (hlive : ∀ task, db.agentTasks.find? selected.id = some task → task.status.isLive = true)
    (now leaseUntil : Int) :
    ((Stmt.claimAgentTask selected now leaseUntil).exec db).2.board = db.board := by
  rcases exec_agentTasks (.claimAgentTask selected now leaseUntil) db with ⟨task, hnone, -⟩ | hfind
  · exact nomatch hnone
  simp only [Db.board, Board.mk.injEq]
  refine ⟨?_, rfl⟩
  funext id
  rw [hfind id]
  cases hstored : db.agentTasks.find? id with
  | none => rfl
  | some task =>
      rw [Option.map_some, Option.bind_some, Option.bind_some]
      refine claimed_live fun hid => ?_
      have hkey : task.id = id := Table.find?_key hstored
      exact hlive task (by rw [← hid, hkey, hstored])

/-- The instance that the payload of a task names, with the status that its ending writes. -/
def AgentTask.writes (task : AgentTask) (status : String) : Option (String × String) :=
  match task.entity with
  | some (.instance instanceId) => some (instanceId, status)
  | _ => none

/-- The instance that the payload of a task names. -/
def AgentTask.target (task : AgentTask) : Option String :=
  match task.entity with
  | some (.instance instanceId) => some instanceId
  | _ => none

theorem target_eq_some {task : AgentTask} {instanceId : String} :
    task.target = some instanceId ↔ task.entity = some (.instance instanceId) := by
  unfold AgentTask.target
  split
  · rename_i id hentity
    simp [hentity]
  · rename_i hother
    refine iff_of_false nofun fun hentity => hother instanceId hentity

theorem writes_eq (task : AgentTask) (status : String) :
    task.writes status = task.target.map (·, status) := by
  unfold AgentTask.writes AgentTask.target
  split <;> rfl

/-- What a result changes: the task has ended, and the status that it reports is written to the
instance that its payload names. -/
def resultChanges (selected : AgentTask) (status : ResultStatus) (result : Json) : List Change :=
  if selected.resultCommits then
    [.ending selected.id (selected.writes (nextStatus selected.kind status result))]
  else []

theorem board_recordResult (db : Db) (selected : AgentTask) (status : ResultStatus) (result : Json)
    (now : Int) :
    ((Stmt.recordResult selected status result now).exec db).2.board
      = db.board.afterAll (resultChanges selected status result) := by
  have htasks := exec_recordResult_agentTasks selected status result now db
  have hinstances := exec_recordResult_modelInstances selected status result now db
  have hended : ∀ task : AgentTask, (task.finish status result now).status.isLive = false := by
    intro task
    cases status <;> rfl
  have hfinish : ({ db with
      agentTasks := db.agentTasks.update selected.id (·.finish status result now)
        fun _ => rfl } : Db).board = db.board.finish selected.id :=
    board_update_task db hended
  by_cases hinstance : ∃ instanceId, selected.entity = some (.instance instanceId)
  · obtain ⟨instanceId, hselected⟩ := hinstance
    rw [if_pos (resultCommits_of_entity hselected)] at htasks
    rw [hselected] at hinstances
    have hwrite : ({ db with
        agentTasks := db.agentTasks.update selected.id (·.finish status result now)
          fun _ => rfl
        modelInstances := db.modelInstances.update instanceId
          (·.applyResult selected.kind status result now) fun _ => rfl } : Db).board
        = (db.board.finish selected.id).setStatus instanceId
          (nextStatus selected.kind status result) := by
      rw [← hfinish]
      exact board_update_instance
        { db with
          agentTasks := db.agentTasks.update selected.id (·.finish status result now)
            fun _ => rfl }
        instanceId _ (fun _ => rfl) fun _ => rfl
    have hchanges : resultChanges selected status result
        = [.ending selected.id (some (instanceId, nextStatus selected.kind status result))] := by
      unfold resultChanges AgentTask.writes
      rw [if_pos (resultCommits_of_entity hselected), hselected]
    rw [hchanges]
    exact (board_congr htasks hinstances).trans hwrite
  · have hnot : ∀ instanceId, selected.entity ≠ some (.instance instanceId) :=
      fun instanceId heq => hinstance ⟨instanceId, heq⟩
    have hwrites : selected.writes (nextStatus selected.kind status result) = none := by
      unfold AgentTask.writes
      split
      · exact absurd ‹_› (hnot _)
      · rfl
    have hkept : ((Stmt.recordResult selected status result now).exec db).2.modelInstances
        = db.modelInstances := by
      rw [hinstances]
      split
      · exact absurd ‹_› (hnot _)
      · rfl
    unfold resultChanges
    by_cases hcommits : selected.resultCommits = true
    · rw [if_pos hcommits] at htasks
      rw [if_pos hcommits, hwrites, ← show _ = db.board.afterAll [.ending selected.id none] from
        hfinish]
      exact board_congr htasks hkept
    · rw [if_neg hcommits] at htasks
      rw [if_neg hcommits]
      exact board_congr htasks hkept

end LightAI.Server
