import LightAI.Server.TasksAtHome

/-!
# Files that are moved away from their tasks

An update of a file may move it to another node while a task for its old node names it, waiting, running or
long ended. Every other request leaves the tasks for the nodes of their rows, and so does an update that
leaves the file on the node of its tasks.
-/

namespace LightAI.Server

/-- The rows that a request may insert, by the ids that it brings for them. -/
def PlatformRequest.Gives : PlatformRequest → Entity → Prop
  | plain (.createModelInstance _ id), entity => entity = .instance id
  | plain (.createModelFile _ _ id _ _), entity => entity = .file id
  | plain (.deleteModelFile _ trashId), entity => entity = .trash trashId
  | plain (.createModelFileTrash _ _ id), entity => entity = .trash id
  | createModel _ _ fileId _ _, entity => entity = .file fileId
  | deleteModel _ trashId, entity => ∃ fileId, entity = .trash (trashId fileId)
  | _, _ => False

theorem gives_instance (request : ModelInstanceCreateRequest) (id : String) :
    (PlatformRequest.plain (.createModelInstance request id)).Gives (.instance id) := rfl

theorem gives_file (modelId : String) (request : ModelFileRequest) (id taskId : String) (rounds : Nat) :
    (PlatformRequest.plain (.createModelFile modelId request id taskId rounds)).Gives (.file id) := rfl

theorem gives_deleted (id trashId : String) :
    (PlatformRequest.plain (.deleteModelFile id trashId)).Gives (.trash trashId) := rfl

theorem gives_trash (fileId : String) (request : ModelFileTrashRequest) (id : String) :
    (PlatformRequest.plain (.createModelFileTrash fileId request id)).Gives (.trash id) := rfl

/-- The request that an operation begins or resumes. -/
def PlatformOperation.request? (s : Platform) : PlatformOperation → Option PlatformRequest
  | serve request => some request
  | resume index => s.waiting[index]?
  | act _ => none

/-- The ids of new rows are random: no task names a row of one of them yet. -/
def NewRowsUnnamed (s : Platform) (op : PlatformOperation) : Prop :=
  ∀ request, op.request? s = some request → Unnamed request.Gives s.db

/-- An update of a file that comes to its write moves no file away from a task that names it. -/
def MovesWithTasks (s : Platform) : PlatformOperation → Prop
  | .resume index =>
      match s.waiting[index]? with
      | some (.plain (.updateModelFile id request taskId _)) =>
          ((s.db.agentTasks.find? taskId).bind (·.verifiedFile s.db.clock)).isSome = true →
          (s.db.modelFiles.find? id).isSome = true →
          ∀ task ∈ s.db.agentTasks.rows, task.entity = some (.file id) → task.nodeId = request.nodeId
      | _ => True
  | _ => True

/-! ### The first parts of requests -/

section Begin

variable {fresh : Entity → Prop} {α : Type} {db : Db}

theorem keepsHome_begin (deps : External) (request : Request) :
    KeepsHome (PlatformRequest.plain request).Gives (request.begin deps) := by
  have hP := enqueues_keepsHome (PlatformRequest.plain request).Gives
  have hplain : request.writes ⊆ settledWrites →
      KeepsHome (PlatformRequest.plain request).Gives (request.begin deps) :=
    fun hsub => hP.uses ((uses_begin deps request).mono hsub)
  cases request
  case createModelInstance request id =>
      exact hP.ended (hP.answered (keepsHome_createModelInstance (gives_instance request id) deps request))
  case startModelInstance id taskId rounds =>
      exact hP.waits (keepsHome_enqueueLocalInstanceTask deps id rfl _ taskId)
  case stopModelInstance id taskId rounds =>
      exact hP.waits (keepsHome_enqueueLocalInstanceTask deps id rfl _ taskId)
  case checkModelInstance id taskId http rounds =>
      refine hP.waitsUnless (hP.beginCheck (by decide) deps id taskId http fun kind hkind => ?_)
      exact keepsHome_enqueueLocalInstanceTask deps id hkind "running" taskId
  case testModelInstance id taskId http rounds =>
      refine hP.waitsUnless (hP.beginTest (by decide) deps id taskId http fun kind hkind => ?_)
      exact keepsHome_enqueueLocalInstanceTask deps id hkind "running" taskId
  case refreshInstanceLogs => exact hP.ended (hP.answered (hP.refreshInstanceLogs (by decide) (by decide) _ _ _))
  case createRuntimeEnvironment => exact hP.waitsUnless (hP.beginRuntimeCreation (by decide) deps _ _ _ _)
  case checkRuntimeEnvironment => exact hP.waitsUnless (hP.beginRuntimeCheck (by decide) _ _)
  case ollamaModelList => exact hP.ended (hP.answered (hP.ollamaModelList (by decide) deps _ _ _ _))
  case createModelFile => exact hP.waits (hP.beginFileCreation _ _ _)
  case updateModelFile => exact hP.waits (hP.beginFileUpdate _ _)
  case queueModelFileVerification =>
      exact hP.ended (hP.answered (keepsHome_queueModelFileVerification _ _))
  case deleteModelFile id trashId =>
      exact hP.ended (hP.answered (keepsHome_deleteModelFile (gives_deleted id trashId) id))
  case createModelFileTrash fileId request id =>
      exact hP.ended (hP.answered
        (keepsHome_ensureModelFileTrash (gives_trash fileId request id) fileId _ _))
  case cleanupModelFileTrash => exact hP.waitsUnless (keepsHome_beginCleanup _ _)
  case readAgentLog => exact hP.ended (hP.answered (hP.readAgentLog (by decide) _ _ _ _))
  case runGatewayTask => exact hP.ended (hP.answered (hP.runGatewayTask (by decide) deps _ _ _ _ _))
  all_goals exact hplain (by simp only [Request.writes]; decide)

theorem tasksAtHome_begin (deps : External) (request : PlatformRequest)
    (hdb : AtHomeWithout request.Gives db) : TasksAtHome (request.begin deps db).2 := by
  cases request with
  | plain request =>
      rw [db_begin_plain]
      exact (keepsHome_begin deps request db hdb).1
  | createModel request id fileId taskId rounds =>
      have hbegun : KeepsHome (PlatformRequest.createModel request id fileId taskId rounds).Gives
          (beginModelCreation deps request taskId) :=
        (enqueues_keepsHome _).beginModelCreation deps request taskId
      have hafter := (hbegun db hdb).1
      simp only [PlatformRequest.begin]
      split <;> rename_i hserve <;> rw [hserve] at hafter <;> exact hafter
  | deleteModel id trashId =>
      have htrashed : KeepsHome (PlatformRequest.deleteModel id trashId).Gives (trashModel id trashId) :=
        keepsHome_trashModel (fun fileId => ⟨fileId, rfl⟩) id
      have hafter := (htrashed db hdb).1
      simp only [PlatformRequest.begin]
      split <;> rename_i hserve <;> rw [hserve] at hafter <;> exact hafter

end Begin

/-! ### The ends of waits -/

section Finish

variable {fresh : Entity → Prop} {db : Db}

theorem stmt_homely_insertModelFile {file : ModelFile} (hfresh : fresh (.file file.id)) :
    (Stmt.insertModelFile file).Homely fresh where
  enqueued task henqueues := by cases henqueues
  settled entity nodeId hsettles := by
    rw [← (Prod.mk.inj (Option.some.inj hsettles)).1]
    exact hfresh

theorem keepsHome_waitForVerification (taskId : String) (rounds : Nat) :
    KeepsHome fresh (waitForModelFileVerification taskId rounds) :=
  (composes_keepsHome fresh).uses (uses_waitForModelFileVerification (by decide) taskId rounds)

theorem keepsHome_finishFileCreation {id : String} (hfresh : fresh (.file id)) (modelId : String)
    (request : ModelFileRequest) (taskId : String) (rounds : Nat) :
    KeepsHome fresh (finishFileCreation modelId request id taskId rounds) := by
  have hP := composes_keepsHome fresh
  apply keepsHome_bind (keepsHome_waitForVerification taskId rounds)
  intro verified
  apply hP.reads_bind uses_nowUnixSecs
  intro now
  refine keepsHome_bind (keepsHome_execute (stmt_homely_insertModelFile ?_)) fun accepted => ?_
  · exact hfresh
  · apply hP.reads_bind (uses_inserted accepted)
    intro _
    exact hP.uses (uses_modelFile (by decide) id)

theorem keepsHome_finish (request : Request)
    (hupdate : ∀ id file taskId rounds, request ≠ .updateModelFile id file taskId rounds) :
    KeepsHome (PlatformRequest.plain request).Gives request.finish := by
  have hP := composes_keepsHome (PlatformRequest.plain request).Gives
  have hwait : ∀ id taskId rounds, Uses settledWrites (waitForModelInstanceTask id taskId rounds) :=
    uses_waitForModelInstanceTask (by decide)
  have hruntime : ∀ taskId rounds, Uses settledWrites (waitForRuntimeCheck taskId rounds) :=
    uses_waitForRuntimeCheck (by decide)
  cases request
  case updateModelFile id file taskId rounds => exact absurd rfl (hupdate id file taskId rounds)
  case startModelInstance id taskId rounds => exact hP.answered (hP.uses (hwait _ _ _))
  case stopModelInstance id taskId rounds => exact hP.answered (hP.uses (hwait _ _ _))
  case checkModelInstance id taskId http rounds => exact hP.answered (hP.uses (hwait _ _ _))
  case testModelInstance id taskId http rounds => exact hP.answered (hP.uses (hwait _ _ _))
  case createRuntimeEnvironment nodeId request id taskId rounds =>
      refine hP.answered (keepsHome_bind (hP.uses (hruntime _ _)) fun outcome => ?_)
      exact hP.uses (uses_insertNewRuntime (by decide) _ _ _ outcome)
  case checkRuntimeEnvironment id taskId rounds =>
      refine hP.answered (keepsHome_bind (hP.uses (hruntime _ _)) fun outcome => ?_)
      apply hP.reads_bind uses_nowUnixSecs
      intro now
      apply keepsHome_bind (hP.uses (uses_execute rfl (by decide)))
      intro _
      exact hP.reads (uses_runtimeEnvironment id)
  case createModelFile modelId request id taskId rounds =>
      have hfresh := gives_file modelId request id taskId rounds
      exact hP.answered (keepsHome_finishFileCreation hfresh modelId request taskId rounds)
  case cleanupModelFileTrash id taskId rounds =>
      exact hP.answered (hP.uses (uses_cleanupWait (by decide) (by decide) id taskId rounds))
  all_goals exact hP.reads (uses_pure _)

/-- The statement of an update leaves the tasks at home if it leaves the file with its tasks. -/
theorem tasksAtHome_updateModelFile {id nodeId path : String} {verified : VerifiedModelFile} {now : Int}
    (hmoves : (db.modelFiles.find? id).isSome = true →
      ∀ task ∈ db.agentTasks.rows, task.entity = some (.file id) → task.nodeId = nodeId)
    (hdb : TasksAtHome db) :
    TasksAtHome ((Stmt.updateModelFile id nodeId path verified now).exec db).2 := by
  cases hfile : db.modelFiles.find? id with
  | some file =>
      refine tasksAtHome_exec ⟨?_, ?_⟩ hdb
      · intro task entity henqueues
        cases henqueues
      · intro entity node hsettles task htask hentity
        obtain ⟨rfl, rfl⟩ := Prod.mk.inj (Option.some.inj hsettles)
        rw [hmoves (by rw [hfile]; rfl) task htask hentity]
  | none =>
      have hsame : ∀ fileId, ((Stmt.updateModelFile id nodeId path verified now).exec
          db).2.modelFiles.find? fileId = db.modelFiles.find? fileId := by
        intro fileId
        have hfind := Table.find?_update db.modelFiles id (·.replace nodeId path verified now)
          (fun _ => rfl) fileId
        by_cases hid : fileId = id
        · rw [if_pos hid, hid, hfile] at hfind
          rw [hid, hfile]
          exact hfind
        · rw [if_neg hid] at hfind
          exact hfind
      intro task htask entity hentity
      have hon := hdb task htask entity hentity
      cases entity with
      | «instance» instanceId => exact hon
      | trash trashId => exact hon
      | file fileId =>
          intro file hfind
          rw [hsame] at hfind
          exact hon file hfind

/-- After a verification an update comes to its write, and then reads the file. -/
theorem rel_finishFileUpdate {R : Db → Db → Prop} {writes : List Write} (hR : Respected R writes)
    (hread : fileReadWrites ⊆ writes) (id : String) (request : ModelFileRequest) {taskId : String}
    (rounds : Nat) (hverified :
      ((db.agentTasks.find? taskId).bind (·.verifiedFile db.clock)).isSome = true) :
    ∃ verified : VerifiedModelFile,
      R ((Stmt.updateModelFile id request.nodeId request.path verified db.clock).exec db).2
        (serve (finishFileUpdate id request taskId rounds) db).2 := by
  unfold finishFileUpdate
  rcases serve_waitForVerification taskId rounds db with ⟨verified, -, hwait⟩ | ⟨hnone, -⟩
  · rw [serve_bind_ok hwait, serve_bind_ok (serve_nowUnixSecs db)]
    refine ⟨verified, hR.after_execute (fun found => ?_) db⟩
    cases (show Bool from found) with
    | true => exact uses_modelFile hread id
    | false => exact uses_throw _
  · rw [hnone] at hverified
    cases hverified

theorem tasksAtHome_finishFileUpdate (id : String) (request : ModelFileRequest) (taskId : String)
    (rounds : Nat)
    (hmoves : ((db.agentTasks.find? taskId).bind (·.verifiedFile db.clock)).isSome = true →
      (db.modelFiles.find? id).isSome = true →
      ∀ task ∈ db.agentTasks.rows, task.entity = some (.file id) → task.nodeId = request.nodeId)
    (hdb : TasksAtHome db) :
    TasksAtHome (serve (finishFileUpdate id request taskId rounds) db).2 := by
  by_cases hverified : ((db.agentTasks.find? taskId).bind (·.verifiedFile db.clock)).isSome = true
  · obtain ⟨verified, hafter⟩ := rel_finishFileUpdate (respected_atHome fun _ => False) (by decide) id
      request rounds hverified
    exact (hafter (atHome_none (tasksAtHome_updateModelFile (hmoves hverified) hdb))).1
  · have hwaited := keepsHome_waitForVerification taskId rounds db (atHome_none hdb)
    unfold finishFileUpdate
    rcases serve_waitForVerification taskId rounds db with
      ⟨verified, hsome, -⟩ | ⟨-, e, db', hwait, -⟩
    · rw [hsome] at hverified
      exact absurd rfl hverified
    · rw [hwait] at hwaited
      rw [serve_bind_error hwait]
      exact hwaited.1

theorem tasksAtHome_createModelRows (model : Model) {file : ModelFile} (hfresh : fresh (.file file.id))
    (hdb : AtHomeWithout fresh db) : TasksAtHome (createModelRows model file db) := by
  unfold createModelRows
  split
  · exact hdb.1
  · rename_i models _
    dsimp only
    split
    · have hmodels : AtHomeWithout fresh { db with models } := hdb
      exact (atHomeWithout_exec (stmt_homely_insertModelFile hfresh) hmodels).1
    · exact hdb.1

end Finish

/-! ### Operations -/

theorem tasksAtHome_finish {s : Platform} {index : Nat} {request : PlatformRequest}
    (hget : s.waiting[index]? = some request) (hs : AtHomeWithout request.Gives s.db)
    (hop : MovesWithTasks s (.resume index)) : TasksAtHome (request.finish s.db) := by
  simp only [MovesWithTasks, hget] at hop
  cases request with
  | createModel request id fileId taskId rounds =>
      have hwaited := keepsHome_waitForVerification taskId rounds s.db hs
      simp only [PlatformRequest.finish]
      split <;> rename_i hserve <;> rw [hserve] at hwaited
      · split
        · exact hwaited.1
        · refine tasksAtHome_createModelRows _ ?_ hwaited
          rfl
      · exact hwaited.1
  | deleteModel id trashId => exact hs.1
  | plain request =>
      by_cases hupdate : ∃ id file taskId rounds, request = .updateModelFile id file taskId rounds
      · obtain ⟨id, file, taskId, rounds, rfl⟩ := hupdate
        change TasksAtHome (serve (answered (finishFileUpdate id file taskId rounds)) s.db).2
        rw [answered, serve_then_pure]
        exact tasksAtHome_finishFileUpdate id file taskId rounds hop hs.1
      · have hne : ∀ id file taskId rounds, request ≠ .updateModelFile id file taskId rounds :=
          fun id file taskId rounds heq => hupdate ⟨id, file, taskId, rounds, heq⟩
        exact (keepsHome_finish request hne s.db hs).1

theorem tasksAtHome_perform (deps : External) {s : Platform} {op : PlatformOperation}
    (hs : TasksAtHome s.db) (hfresh : NewRowsUnnamed s op) (hop : MovesWithTasks s op) :
    TasksAtHome (op.perform deps s).db := by
  cases op with
  | serve request => exact tasksAtHome_begin deps request ⟨hs, hfresh request rfl⟩
  | resume index =>
      simp only [PlatformOperation.perform]
      split
      · exact hs
      · rename_i request hget
        exact tasksAtHome_finish hget ⟨hs, hfresh request hget⟩ hop
  | act action => cases action <;> exact hs

/-- A task for another node names the file. -/
structure Db.NamedAway (db : Db) (task : AgentTask) (file : ModelFile) : Prop where
  taskStored : task ∈ db.agentTasks.rows
  fileStored : file ∈ db.modelFiles.rows
  names : task.entity = some (.file file.id)
  away : file.nodeId ≠ task.nodeId

theorem Respected.and {R R' : Db → Db → Prop} {writes : List Write} (h : Respected R writes)
    (h' : Respected R' writes) : Respected (fun db db' => R db db' ∧ R' db db') writes where
  refl db := ⟨h.refl db, h'.refl db⟩
  trans _ _ _ hfirst hsecond := ⟨h.trans _ _ _ hfirst.1 hsecond.1, h'.trans _ _ _ hfirst.2 hsecond.2⟩
  exec stmt db hamong := ⟨h.exec stmt db hamong, h'.exec stmt db hamong⟩
  models db models := ⟨h.models db models, h'.models db models⟩

theorem namedAway_finishFileUpdate {db : Db} {id : String} (request : ModelFileRequest) {taskId : String}
    (rounds : Nat) {task : AgentTask}
    (hverified : ((db.agentTasks.find? taskId).bind (·.verifiedFile db.clock)).isSome = true)
    (hstored : (db.modelFiles.find? id).isSome = true) (htask : task ∈ db.agentTasks.rows)
    (hentity : task.entity = some (.file id)) (hnode : task.nodeId ≠ request.nodeId) :
    ∃ task file, (serve (finishFileUpdate id request taskId rounds) db).2.NamedAway task file := by
  obtain ⟨stored, hstored⟩ := Option.isSome_iff_exists.mp hstored
  have hrespected : Respected (fun db db' => FilesStay db db' ∧ TasksKept db db') fileReadWrites :=
    Respected.and (respected_filesStay (by decide)) (respected_tasksKept _)
  obtain ⟨verified, hstay, hkept⟩ :=
    rel_finishFileUpdate hrespected (List.Subset.refl _) id request rounds hverified
  have hwritten : ((Stmt.updateModelFile id request.nodeId request.path verified db.clock).exec
      db).2.modelFiles.find? id
        = some (stored.replace request.nodeId request.path verified db.clock) := by
    have hfind := Table.find?_update db.modelFiles id
      (·.replace request.nodeId request.path verified db.clock) (fun _ => rfl) id
    rw [if_pos rfl, hstored] at hfind
    exact hfind
  obtain ⟨file, hfile, hmoved⟩ := hstay id _ hwritten
  obtain ⟨task', htask', hsameNode, hkind, hpayload⟩ := hkept task.id task (Table.find?_of_mem htask)
  have hid : file.id = id := Table.find?_key hfile
  refine ⟨task', file, Table.find?_mem htask', Table.find?_mem hfile, ?_, ?_⟩
  · rw [hid, ← hentity]
    simp only [AgentTask.entity, hkind, hpayload]
  · rw [hmoved, hsameNode]
    exact hnode.symm

/-- An update that moves a file away from a task leaves it named by a task for another node. -/
theorem namedAway_of_moved (deps : External) {s : Platform} {op : PlatformOperation}
    (hop : ¬MovesWithTasks s op) : ∃ task file, (op.perform deps s).db.NamedAway task file := by
  cases op with
  | serve request => exact absurd trivial hop
  | act action => exact absurd trivial hop
  | resume index =>
      simp only [MovesWithTasks] at hop
      cases hget : s.waiting[index]? with
      | none =>
          rw [hget] at hop
          exact absurd trivial hop
      | some waiting =>
          rw [hget] at hop
          by_cases hupdate : ∃ id request taskId rounds,
              waiting = .plain (.updateModelFile id request taskId rounds)
          · obtain ⟨id, request, taskId, rounds, rfl⟩ := hupdate
            simp only [not_forall] at hop
            obtain ⟨hverified, hstored, task, htask, hentity, hnode⟩ := hop
            have hfinish : ((PlatformOperation.resume index).perform deps s).db
                = (serve (finishFileUpdate id request taskId rounds) s.db).2 := by
              simp only [PlatformOperation.perform, hget, PlatformRequest.finish]
              exact serve_then_pure _ _ _
            rw [hfinish]
            exact namedAway_finishFileUpdate request rounds hverified hstored htask hentity hnode
          · refine absurd ?_ hop
            split
            · rename_i id request taskId rounds heq
              exact absurd ⟨id, request, taskId, rounds, Option.some.inj heq⟩ hupdate
            · trivial

end LightAI.Server
