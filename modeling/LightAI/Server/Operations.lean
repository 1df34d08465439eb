import LightAI.Server.Served

/-!
# The server as a sequence of operations

Here a request is one step, apart from the requests that enqueue a task for an instance and wait for it:
their enqueueing is one step, and the wait, if it comes to its deadline, another. What the statements of
two requests can do to each other is not seen at this level; what matters is the order in which tasks are
enqueued, polled, reported and timed out.
-/

namespace LightAI.Server

structure ServerState where
  db : Db
  /-- The instance and the task of each request that waits. -/
  waiting : List (String × String) := []

/-- The operations through which the tasks of instances pass. -/
inductive TaskOperation where
  | startModelInstance (id taskId : String)
  | stopModelInstance (id taskId : String)
  | checkModelInstance (id taskId : String) (http : HttpOutcome)
  | testModelInstance (id taskId : String) (http : HttpOutcome)
  | pollAgentTask (nodeId : String) (currentConfigVersion : Option Int)
  | recordAgentTaskResult (taskId : String) (request : AgentTaskResultRequest)
  | markTimedOutTasks
  | waitDeadline (id taskId : String)
  | act (action : Environment)

namespace ServerState

/-- Serves a handler; `waits` says of its value which requests wait from then on. -/
def serve {α : Type} (s : ServerState) (h : Handler α) (waits : α → List (String × String)) :
    ServerState :=
  match Server.serve h s.db with
  | (.ok a, db) => { db, waiting := waits a ++ s.waiting }
  | (.error _, db) => { s with db }

/-- A request that has enqueued a task waits, one that has returned a view does not. -/
def waitsUnless (id taskId : String) : Option ModelInstanceView → List (String × String)
  | none => [(id, taskId)]
  | some _ => []

end ServerState

def TaskOperation.perform (deps : External) (s : ServerState) : TaskOperation → ServerState
  | startModelInstance id taskId =>
      s.serve (enqueueLocalInstanceTask deps id .startModelInstance "starting" taskId)
        fun _ => [(id, taskId)]
  | stopModelInstance id taskId =>
      s.serve (enqueueLocalInstanceTask deps id .stopModelInstance "stopping" taskId)
        fun _ => [(id, taskId)]
  | checkModelInstance id taskId http =>
      s.serve (beginCheck deps id taskId http) (ServerState.waitsUnless id taskId)
  | testModelInstance id taskId http =>
      s.serve (beginTest deps id taskId http) (ServerState.waitsUnless id taskId)
  | pollAgentTask nodeId currentConfigVersion =>
      s.serve (Server.pollAgentTask nodeId currentConfigVersion []) fun _ => []
  | recordAgentTaskResult taskId request =>
      s.serve (Server.recordAgentTaskResult taskId request) fun _ => []
  | markTimedOutTasks => s.serve Server.markTimedOutTasks fun _ => []
  | waitDeadline id taskId =>
      if (id, taskId) ∈ s.waiting then
        { s.serve (waitForModelInstanceTask id taskId 0) fun _ => [] with
          waiting := s.waiting.erase (id, taskId) }
      else s
  | act action => { s with db := action.act s.db }

/-! ### What an operation changes on the board -/

/-- The change of a handler that enqueues a task unless it fails. -/
def enqueueChanges (id : String) (kind : TaskKind) (pendingStatus taskId : String) (enqueued : Bool) :
    List Change :=
  if enqueued then [.enqueue taskId kind id pendingStatus] else []

def beganWaiting : Except DomainError (Option ModelInstanceView) → Bool
  | .ok none => true
  | _ => false

def TaskOperation.changes (deps : External) (s : ServerState) : TaskOperation → List Change
  | startModelInstance id taskId =>
      enqueueChanges id .startModelInstance "starting" taskId
        (serve (enqueueLocalInstanceTask deps id .startModelInstance "starting" taskId) s.db).1.isOk
  | stopModelInstance id taskId =>
      enqueueChanges id .stopModelInstance "stopping" taskId
        (serve (enqueueLocalInstanceTask deps id .stopModelInstance "stopping" taskId) s.db).1.isOk
  | checkModelInstance id taskId http =>
      enqueueChanges id .checkModelInstance "running" taskId
        (beganWaiting (serve (beginCheck deps id taskId http) s.db).1)
  | testModelInstance id taskId http =>
      enqueueChanges id .testModelInstance "running" taskId
        (beganWaiting (serve (beginTest deps id taskId http) s.db).1)
  | pollAgentTask .. | markTimedOutTasks => sweepChanges s.db
  | recordAgentTaskResult taskId request => recordChanges s.db taskId request
  | waitDeadline id taskId =>
      if (id, taskId) ∈ s.waiting then deadlineChanges s.db id taskId else []
  | act _ => []

theorem db_serve {α : Type} (s : ServerState) (h : Handler α) (waits : α → List (String × String)) :
    (s.serve h waits).db = (serve h s.db).2 := by
  unfold ServerState.serve
  split <;> rename_i hserve <;> rw [hserve]

theorem board_act (action : Environment) (db : Db) : (action.act db).board = db.board := by
  cases action <;> rfl

theorem board_enqueueOperation (deps : External) (id : String) {kind : TaskKind}
    (hkind : kind.isInstanceTask = true) (pendingStatus taskId : String) (db : Db) :
    (serve (enqueueLocalInstanceTask deps id kind pendingStatus taskId) db).2.board
      = db.board.afterAll (enqueueChanges id kind pendingStatus taskId
        (serve (enqueueLocalInstanceTask deps id kind pendingStatus taskId) db).1.isOk) := by
  rcases serve_enqueueLocalInstanceTask deps id hkind pendingStatus taskId db with
    ⟨e, h⟩ | ⟨db', henqueued, h⟩
  · rw [h]
    rfl
  · rw [h]
    exact henqueued.board

theorem board_checkOperation {id taskId : String} {kind : TaskKind}
    {h : Handler (Option ModelInstanceView)} {db : Db}
    (hserve : (∃ db', Enqueued id kind "running" taskId db db' ∧ serve h db = (.ok none, db')) ∨
      ((serve h db).1 ≠ .ok none ∧ (serve h db).2.board = db.board)) :
    (serve h db).2.board = db.board.afterAll
      (enqueueChanges id kind "running" taskId (beganWaiting (serve h db).1)) := by
  rcases hserve with ⟨db', henqueued, heq⟩ | ⟨houtcome, hboard⟩
  · rw [heq]
    exact henqueued.board
  · have hnot : beganWaiting (serve h db).1 = false := by
      unfold beganWaiting
      split
      · exact absurd ‹_› houtcome
      · rfl
    rw [hboard, hnot]
    rfl

/-- The operations on the tables refine those on the board. -/
theorem board_perform (deps : External) (s : ServerState) (op : TaskOperation) :
    (op.perform deps s).db.board = s.db.board.afterAll (op.changes deps s) := by
  cases op with
  | startModelInstance id taskId =>
      rw [TaskOperation.perform, db_serve]
      exact board_enqueueOperation deps id rfl "starting" taskId s.db
  | stopModelInstance id taskId =>
      rw [TaskOperation.perform, db_serve]
      exact board_enqueueOperation deps id rfl "stopping" taskId s.db
  | checkModelInstance id taskId http =>
      rw [TaskOperation.perform, db_serve]
      exact board_checkOperation (serve_beginCheck deps id taskId http s.db)
  | testModelInstance id taskId http =>
      rw [TaskOperation.perform, db_serve]
      exact board_checkOperation (serve_beginTest deps id taskId http s.db)
  | pollAgentTask nodeId currentConfigVersion =>
      rw [TaskOperation.perform, db_serve]
      exact board_pollAgentTask nodeId currentConfigVersion s.db
  | recordAgentTaskResult taskId request =>
      rw [TaskOperation.perform, db_serve]
      exact board_recordAgentTaskResult taskId request s.db
  | markTimedOutTasks =>
      rw [TaskOperation.perform, db_serve]
      exact serve_markTimedOutTasks s.db
  | waitDeadline id taskId =>
      rw [TaskOperation.perform, TaskOperation.changes]
      by_cases hwaits : (id, taskId) ∈ s.waiting
      · rw [if_pos hwaits, if_pos hwaits]
        dsimp only
        rw [db_serve]
        exact board_deadline id taskId s.db
      · rw [if_neg hwaits, if_neg hwaits]
        rfl
  | act action => exact board_act action s.db

/-! ### Who waits for what -/

/-- A request waits for a task of its own instance. -/
def WaitsForOwnTask (s : ServerState) : Prop :=
  ∀ id taskId, (id, taskId) ∈ s.waiting → TaskNames s.db taskId (some (.instance id))

theorem waitsForOwnTask_serve {α : Type} {s : ServerState} {h : Handler α}
    {waits : α → List (String × String)} (hs : WaitsForOwnTask s)
    (hwaits : ∀ a db', serve h s.db = (.ok a, db') →
      ∀ id taskId, (id, taskId) ∈ waits a → TaskNames db' taskId (some (.instance id))) :
    WaitsForOwnTask (s.serve h waits) := by
  have hkept : ∀ id taskId, (id, taskId) ∈ s.waiting →
      TaskNames (serve h s.db).2 taskId (some (.instance id)) :=
    fun id taskId hmem => taskNames_serve h (hs id taskId hmem)
  unfold ServerState.serve
  split
  · rename_i a db' hserve
    rw [hserve] at hkept
    intro id taskId hmem
    rcases List.mem_append.mp hmem with hnew | hold
    · exact hwaits a db' hserve id taskId hnew
    · exact hkept id taskId hold
  · rename_i e db' hserve
    rw [hserve] at hkept
    exact hkept

theorem waitsForOwnTask_perform (deps : External) (s : ServerState) (op : TaskOperation)
    (hs : WaitsForOwnTask s) : WaitsForOwnTask (op.perform deps s) := by
  have henqueue : ∀ (id : String) {kind : TaskKind} (pendingStatus taskId : String),
      kind.isInstanceTask = true →
      WaitsForOwnTask (s.serve (enqueueLocalInstanceTask deps id kind pendingStatus taskId)
        fun _ => [(id, taskId)]) := by
    intro id kind pendingStatus taskId hkind
    apply waitsForOwnTask_serve hs
    intro a db' hserve id' taskId' hmem
    obtain ⟨rfl, rfl⟩ := Prod.mk.inj (List.mem_singleton.mp hmem)
    rcases serve_enqueueLocalInstanceTask deps id' hkind pendingStatus taskId' s.db with
      ⟨e, h⟩ | ⟨db'', henqueued, h⟩
    · rw [h] at hserve
      exact nomatch congrArg Prod.fst hserve
    · rw [h] at hserve
      obtain rfl : db'' = db' := congrArg Prod.snd hserve
      exact henqueued.taskNames
  have hcheck : ∀ (id : String) {kind : TaskKind} (taskId : String)
      {h : Handler (Option ModelInstanceView)},
      ((∃ db', Enqueued id kind "running" taskId s.db db' ∧ serve h s.db = (.ok none, db')) ∨
        ((serve h s.db).1 ≠ .ok none ∧ (serve h s.db).2.board = s.db.board)) →
      WaitsForOwnTask (s.serve h (ServerState.waitsUnless id taskId)) := by
    intro id kind taskId h hcases
    apply waitsForOwnTask_serve hs
    intro a db' hserve id' taskId' hmem
    cases a with
    | some view => exact nomatch hmem
    | none =>
        obtain ⟨rfl, rfl⟩ := Prod.mk.inj (List.mem_singleton.mp hmem)
        rcases hcases with ⟨db'', henqueued, heq⟩ | ⟨houtcome, -⟩
        · rw [heq] at hserve
          obtain rfl : db'' = db' := congrArg Prod.snd hserve
          exact henqueued.taskNames
        · rw [hserve] at houtcome
          exact absurd rfl houtcome
  have hsilent : ∀ {α : Type} (h : Handler α), WaitsForOwnTask (s.serve h fun _ => []) := by
    intro α h
    apply waitsForOwnTask_serve hs
    intro a db' _ id taskId hmem
    exact nomatch hmem
  cases op with
  | startModelInstance id taskId => exact henqueue id "starting" taskId rfl
  | stopModelInstance id taskId => exact henqueue id "stopping" taskId rfl
  | checkModelInstance id taskId http => exact hcheck id taskId (serve_beginCheck deps id taskId http s.db)
  | testModelInstance id taskId http => exact hcheck id taskId (serve_beginTest deps id taskId http s.db)
  | pollAgentTask nodeId currentConfigVersion => exact hsilent _
  | recordAgentTaskResult taskId request => exact hsilent _
  | markTimedOutTasks => exact hsilent _
  | waitDeadline id taskId =>
      rw [TaskOperation.perform]
      by_cases hwaits : (id, taskId) ∈ s.waiting
      · rw [if_pos hwaits]
        intro id' taskId' hmem
        have hdb := db_serve s (waitForModelInstanceTask id taskId 0) fun _ => []
        dsimp only
        rw [hdb]
        exact taskNames_serve _ (hs id' taskId' (List.mem_of_mem_erase hmem))
      · rw [if_neg hwaits]
        exact hs
  | act action =>
      intro id taskId hmem
      obtain ⟨task, htask, hentity⟩ := hs id taskId hmem
      exact ⟨task, by rw [TaskOperation.perform, act_agentTasks, htask], hentity⟩

/-! ### All requests on instances -/

/-- The operations on the tasks of instances, and those that only write the rows. -/
inductive ServerOperation where
  | task (op : TaskOperation)
  | updateModelInstance (id : String) (request : ModelInstanceUpdateRequest)
  | deleteModelInstance (id : String)
  | updateRuntimeEnvironment (id : String) (request : RuntimeEnvironmentRequest)
  | recordHeartbeat (request : HeartbeatRequest)

namespace ServerOperation

def perform (deps : External) (s : ServerState) : ServerOperation → ServerState
  | task op => op.perform deps s
  | updateModelInstance id request =>
      s.serve (Server.updateModelInstance deps id request) fun _ => []
  | deleteModelInstance id => s.serve (Server.deleteModelInstance id) fun _ => []
  | updateRuntimeEnvironment id request =>
      s.serve (Server.updateRuntimeEnvironment deps id request) fun _ => []
  | recordHeartbeat request => s.serve (Server.recordHeartbeat request) fun _ => []

/-- The change of a deletion, which is refused while the instance is busy. -/
def deleteChanges (db : Db) (id : String) : List Change :=
  if (db.modelInstances.find? id).any (!busyStatus ·.status) then [.remove id] else []

def changes (deps : External) (s : ServerState) : ServerOperation → List Change
  | task op => op.changes deps s
  | updateModelInstance .. | updateRuntimeEnvironment .. => []
  | deleteModelInstance id => deleteChanges s.db id
  | recordHeartbeat request => heartbeatChanges s.db request

theorem board_deleteOperation (id : String) (db : Db) :
    (Server.serve (Server.deleteModelInstance id) db).2.board
      = db.board.afterAll (deleteChanges db id) := by
  unfold deleteChanges
  cases hrow : db.modelInstances.find? id with
  | none =>
      unfold Server.deleteModelInstance
      rw [serve_bind_error (serve_modelInstance_of_none hrow)]
      rfl
  | some row =>
      by_cases hbusy : busyStatus row.status = true
      · rw [serve_deleteModelInstance_of_busy hrow hbusy]
        simp [hbusy]
      · rw [serve_deleteModelInstance_of_idle hrow (by simpa using hbusy),
          board_deleteModelInstance]
        simp [hbusy]

theorem board_perform (deps : External) (s : ServerState) (op : ServerOperation) :
    (op.perform deps s).db.board = s.db.board.afterAll (op.changes deps s) := by
  cases op with
  | task op => exact Server.board_perform deps s op
  | updateModelInstance id request =>
      rw [perform, db_serve]
      exact board_updateModelInstance deps id request s.db
  | deleteModelInstance id =>
      rw [perform, db_serve]
      exact board_deleteOperation id s.db
  | updateRuntimeEnvironment id request =>
      rw [perform, db_serve]
      exact board_updateRuntimeEnvironment deps id request s.db
  | recordHeartbeat request =>
      rw [perform, db_serve]
      exact board_recordHeartbeat_served request s.db

end ServerOperation

end LightAI.Server
