import LightAI.Server.PlainTasks
import LightAI.Server.TrashedFiles
import LightAI.Server.VerifiedFiles

/-!
# The nodes of the rows that tasks name

A task is enqueued for the node of the row that its payload names, and of the rows only a file can be moved
to another node, by an update. A task goes on naming its file whatever becomes of either, so that the tasks
are for the nodes of their rows exactly as long as no update moves a file away from a task that names it. The
ids of new rows are taken to be new to the tasks, as random ones are.
-/

namespace LightAI.Server

/-- The row is on the node, if it is stored. -/
def Db.On (db : Db) (nodeId : String) : Entity → Prop
  | .instance id => ∀ row, db.modelInstances.find? id = some row → row.nodeId = some nodeId
  | .file id => ∀ file, db.modelFiles.find? id = some file → file.nodeId = nodeId
  | .trash id => ∀ item, db.modelFileTrash.find? id = some item → item.nodeId = some nodeId

/-- Every task is for the node of the row that its payload names. -/
def TasksAtHome (db : Db) : Prop :=
  ∀ task ∈ db.agentTasks.rows, ∀ entity, task.entity = some entity → db.On task.nodeId entity

/-- No task names a row of these. -/
def Unnamed (fresh : Entity → Prop) (db : Db) : Prop :=
  ∀ task ∈ db.agentTasks.rows, ∀ entity, task.entity = some entity → ¬fresh entity

/-- The row that a statement puts on a node. -/
def Stmt.settles : Stmt → Option (Entity × Option String)
  | insertModelFile file => some (.file file.id, some file.nodeId)
  | updateModelFile fileId nodeId _ _ _ => some (.file fileId, some nodeId)
  | insertTrash item => some (.trash item.id, item.nodeId)
  | insertModelInstance row => some (.instance row.id, row.nodeId)
  | _ => none

/-- The task that the statement enqueues is for the node of its row, and the row that it puts on a node is
named by tasks for that node only. -/
structure Stmt.AtHome (stmt : Stmt) (db : Db) : Prop where
  enqueued : ∀ task entity, stmt.enqueues = some task → task.entity = some entity →
    db.On task.nodeId entity
  settled : ∀ entity nodeId, stmt.settles = some (entity, nodeId) →
    ∀ task ∈ db.agentTasks.rows, task.entity = some entity → nodeId = some task.nodeId

/-! ### Statements -/

section Statements

variable {stmt : Stmt} {db : Db}

/-- An item stays on its node. -/
theorem onTrash_nodeId (stmt : Stmt) (item : ModelFileTrash) : (stmt.onTrash item).nodeId = item.nodeId := by
  cases stmt with
  | setTrashCleanupRunning trashId now =>
      simp only [Stmt.onTrash]
      split <;> rfl
  | setTrashCleanupPending trashId taskId now =>
      simp only [Stmt.onTrash]
      split <;> rfl
  | updateTrashFailure trashId status message now =>
      simp only [Stmt.onTrash]
      split <;> rfl
  | recordResult selected status result now =>
      simp only [Stmt.onTrash, ModelFileTrash.cleanedUp]
      split
      · split <;> rfl
      · rfl
  | _ => rfl

/-- A row stays on its node unless the statement puts it on another one. -/
theorem on_exec {nodeId : String} {entity : Entity} (h : db.On nodeId entity)
    (hsettles : ∀ node, stmt.settles = some (entity, node) → node = some nodeId) :
    (stmt.exec db).2.On nodeId entity := by
  cases entity with
  | «instance» id =>
      intro row' hrow'
      have hid : row'.id = id := Table.find?_key hrow'
      rcases modelInstances_exec stmt db (Table.find?_mem hrow') with rfl | ⟨row, hrow, hrewrites⟩
      · apply hsettles
        rw [← hid]
        rfl
      · have hlinks := hrewrites.sameLinks
        have hfind : db.modelInstances.find? id = some row := by
          rw [← hid, hlinks.id]
          exact Table.find?_of_mem hrow
        exact hlinks.nodeId.trans (h row hfind)
  | file id =>
      intro file' hfile'
      have hid : file'.id = id := Table.find?_key hfile'
      rcases find?_file_exec hfile' with rfl | ⟨file, hfile, hrewritten⟩
      · have hnode := hsettles (some file'.nodeId) (by rw [← hid]; rfl)
        exact Option.some.inj hnode
      · rcases hrewritten.moves with ⟨hsame, -⟩ | ⟨verified, now, rfl⟩
        · exact hsame.trans (h file hfile)
        · have hfileId : file.id = id := Table.find?_key hfile
          have hnode := hsettles (some file'.nodeId) (by rw [← hfileId]; rfl)
          exact Option.some.inj hnode
  | trash id =>
      intro item' hitem'
      rcases find?_trash_exec hitem' with ⟨item, hitem, rfl⟩ | ⟨rfl, -⟩
      · exact (onTrash_nodeId stmt item).trans (h item hitem)
      · have hid : item'.id = id := Table.find?_key hitem'
        apply hsettles
        rw [← hid]
        rfl

/-- What enqueues a task settles no row. -/
theorem settles_of_enqueues {task : AgentTask} (h : stmt.enqueues = some task) : stmt.settles = none := by
  cases stmt with
  | insertAgentTask task => rfl
  | enqueueInstanceTask task => rfl
  | enqueueFileVerification task => rfl
  | _ => cases h

/-- A task that is there after a statement was there before, for the same row and node, or is enqueued. -/
theorem mem_agentTasks_exec {task' : AgentTask} (hmem : task' ∈ (stmt.exec db).2.agentTasks.rows) :
    stmt.enqueues = some task' ∨
      ∃ task ∈ db.agentTasks.rows, task'.nodeId = task.nodeId ∧ task'.entity = task.entity := by
  have hfind := Table.find?_of_mem hmem
  rcases exec_agentTasks stmt db with ⟨new, henqueues, hinsert⟩ | heach
  · rw [Table.find?_insert? hinsert] at hfind
    by_cases hid : task'.id = new.id
    · rw [if_pos hid] at hfind
      rw [← Option.some.inj hfind]
      exact .inl henqueues
    · rw [if_neg hid] at hfind
      exact .inr ⟨task', Table.find?_mem hfind, rfl, rfl⟩
  · rw [heach] at hfind
    obtain ⟨task, htask, rfl⟩ := Option.map_eq_some_iff.mp hfind
    exact .inr ⟨task, Table.find?_mem htask, onTask_nodeId stmt task, onTask_entity stmt task⟩

theorem tasksAtHome_exec (hstmt : stmt.AtHome db) (hdb : TasksAtHome db) :
    TasksAtHome (stmt.exec db).2 := by
  intro task' hmem entity hentity
  rcases mem_agentTasks_exec hmem with henqueues | ⟨task, htask, hnode, hsame⟩
  · refine on_exec (hstmt.enqueued task' entity henqueues hentity) fun node hsettles => ?_
    rw [settles_of_enqueues henqueues] at hsettles
    cases hsettles
  · rw [hsame] at hentity
    rw [hnode]
    refine on_exec (hdb task htask entity hentity) fun node hsettles => ?_
    exact hstmt.settled entity node hsettles task htask hentity

end Statements

/-! ### Statements that name new rows only -/

/-- The statement enqueues no task that names a row, and puts only such rows on a node. -/
structure Stmt.Homely (fresh : Entity → Prop) (stmt : Stmt) : Prop where
  enqueued : ∀ task, stmt.enqueues = some task → task.entity = none
  settled : ∀ entity nodeId, stmt.settles = some (entity, nodeId) → fresh entity

/-- The tasks are at home, and none names a row of these. -/
def AtHomeWithout (fresh : Entity → Prop) (db : Db) : Prop := TasksAtHome db ∧ Unnamed fresh db

theorem atHomeWithout_exec {fresh : Entity → Prop} {stmt : Stmt} {db : Db} (hstmt : stmt.Homely fresh)
    (hdb : AtHomeWithout fresh db) : AtHomeWithout fresh (stmt.exec db).2 := by
  constructor
  · refine tasksAtHome_exec ⟨?_, ?_⟩ hdb.1
    · intro task entity henqueues hentity
      rw [hstmt.enqueued task henqueues] at hentity
      cases hentity
    · intro entity nodeId hsettles task htask hentity
      exact absurd (hstmt.settled entity nodeId hsettles) (hdb.2 task htask entity hentity)
  · intro task' hmem entity hentity
    rcases mem_agentTasks_exec hmem with henqueues | ⟨task, htask, -, hsame⟩
    · rw [hstmt.enqueued task' henqueues] at hentity
      cases hentity
    · exact hdb.2 task htask entity (hsame.symm.trans hentity)

/-- The kinds of writes that enqueue no task and put no row on a node. -/
def settledWrites : List Write :=
  [.claimAgentTask, .markTaskTimedOut, .recordResult, .setFileVerifying, .setFileVerifyTimeout,
    .expireModelFile, .deleteModelFile, .setTrashCleanupRunning, .setTrashCleanupPending,
    .updateTrashFailure, .deleteTrash, .updateInstanceCheck, .updateLocalInstance,
    .updateExternalInstance, .deleteModelInstance, .setInstanceLogTail, .insertRuntime,
    .updateRuntime, .setRuntimeChecked, .updateRuntimeCheck, .deleteRuntime, .recordHeartbeat]

section Rules

variable {fresh : Entity → Prop} {α β : Type} {db : Db}

theorem stmt_homely_of_among {stmt : Stmt} (h : stmt.Among settledWrites) : stmt.Homely fresh := by
  have hnot : ∀ w ∈ stmt.write, w ∈ settledWrites := h
  constructor
  · intro task henqueues
    cases stmt with
    | insertAgentTask task => exact absurd (hnot _ rfl) (by decide)
    | enqueueInstanceTask task => exact absurd (hnot _ rfl) (by decide)
    | enqueueFileVerification task => exact absurd (hnot _ rfl) (by decide)
    | _ => cases henqueues
  · intro entity nodeId hsettles
    cases stmt with
    | insertModelFile file => exact absurd (hnot _ rfl) (by decide)
    | updateModelFile fileId => exact absurd (hnot _ rfl) (by decide)
    | insertTrash item => exact absurd (hnot _ rfl) (by decide)
    | insertModelInstance row => exact absurd (hnot _ rfl) (by decide)
    | _ => cases hsettles

theorem stmt_homely_insertAgentTask {task : NewAgentTask} (h : task.row.entity = none) :
    (Stmt.insertAgentTask task).Homely fresh where
  enqueued row henqueues := by
    rw [← Option.some.inj henqueues]
    exact h
  settled entity nodeId hsettles := by cases hsettles

/-- The handler leaves the tasks at home. -/
def KeepsHome (fresh : Entity → Prop) {α : Type} (h : Handler α) : Prop :=
  ∀ db, AtHomeWithout fresh db → AtHomeWithout fresh (serve h db).2

theorem keepsHome_bind {h : Handler α} {f : α → Handler β} (hh : KeepsHome fresh h)
    (hf : ∀ a, KeepsHome fresh (f a)) : KeepsHome fresh (h >>= f) := by
  intro db hdb
  have hfirst := hh db hdb
  cases hserve : serve h db with
  | mk outcome db' =>
      rw [hserve] at hfirst
      cases outcome with
      | error e =>
          rw [serve_bind_error hserve]
          exact hfirst
      | ok a =>
          rw [serve_bind_ok hserve]
          exact hf a db' hfirst

theorem respected_atHome (fresh : Entity → Prop) :
    Respected (fun db db' => AtHomeWithout fresh db → AtHomeWithout fresh db') settledWrites where
  refl _ h := h
  trans _ _ _ h h' hdb := h' (h hdb)
  exec _ _ hamong := atHomeWithout_exec (stmt_homely_of_among hamong)
  models _ _ h := h

theorem composes_keepsHome (fresh : Entity → Prop) :
    Composes (fun _ h => KeepsHome fresh h) settledWrites where
  uses huses := huses.respects (respected_atHome fresh)
  bind := keepsHome_bind

theorem keepsHome_execute {stmt : Stmt} (h : stmt.Homely fresh) : KeepsHome fresh (execute stmt) := by
  intro db hdb
  rw [serve_execute]
  exact atHomeWithout_exec h hdb

end Rules

/-! ### Tasks that name no row -/

theorem enqueues_keepsHome (fresh : Entity → Prop) :
    Enqueues (fun _ h => KeepsHome fresh h) settledWrites fun _ => True where
  toComposes := composes_keepsHome fresh
  now hf := keepsHome_bind ((composes_keepsHome fresh).reads uses_nowUnixSecs) fun now => hf now trivial
  insert _ _ hentity _ := keepsHome_execute (stmt_homely_insertAgentTask hentity)

/-! ### Tasks that name a row -/

section Naming

variable {db : Db}

/-- Where no row is new, that no task names one says nothing. -/
theorem unnamed_none (db : Db) : Unnamed (fun _ => False) db := fun _ _ _ _ hfalse => hfalse

theorem atHome_none {db : Db} (h : TasksAtHome db) : AtHomeWithout (fun _ => False) db :=
  ⟨h, unnamed_none db⟩

/-- A statement that enqueues a task for the node of its row. -/
theorem tasksAtHome_enqueue {stmt : Stmt} {task : AgentTask} {entity : Entity}
    (henqueues : stmt.enqueues = some task) (hentity : task.entity = some entity)
    (hon : db.On task.nodeId entity) (hdb : TasksAtHome db) : TasksAtHome (stmt.exec db).2 := by
  refine tasksAtHome_exec ⟨?_, ?_⟩ hdb
  · intro task' entity' henqueues' hentity'
    obtain rfl := Option.some.inj (henqueues.symm.trans henqueues')
    obtain rfl := Option.some.inj (hentity.symm.trans hentity')
    exact hon
  · intro entity' nodeId hsettles
    rw [settles_of_enqueues henqueues] at hsettles
    cases hsettles

theorem keepsHome_enqueueLocalInstanceTask (deps : External) (id : String) {kind : TaskKind}
    (hkind : kind.isInstanceTask = true) (pendingStatus taskId : String) :
    KeepsHome (fun _ => False) (enqueueLocalInstanceTask deps id kind pendingStatus taskId) := by
  intro db hdb
  rcases serve_enqueue_cases deps id kind pendingStatus taskId db with
    ⟨e, hfails⟩ | ⟨task, ⟨hfor⟩, -, hserve⟩
  · rw [hfails]
    exact hdb
  · rw [hserve]
    refine atHome_none (tasksAtHome_enqueue rfl (hfor.entity hkind) ?_ hdb.1)
    intro row hrow
    obtain rfl := Option.some.inj (hfor.find_row.symm.trans hrow)
    exact hfor.node

/-! ### Tasks and items for files -/

theorem uses_expireModelFiles {writes : List Write} (hexpire : .expireModelFile ∈ writes) (now : Int)
    (rows : List JoinedModelFile) : Uses writes (expireModelFiles now rows) := by
  induction rows with
  | nil => exact uses_pure ()
  | cons row rows ih =>
      unfold expireModelFiles
      split
      · exact uses_bind (uses_execute rfl hexpire) fun _ => ih
      · exact ih

/-- Every stored file stays stored, on its node. -/
def FilesStay (db db' : Db) : Prop :=
  ∀ id file, db.modelFiles.find? id = some file →
    ∃ file', db'.modelFiles.find? id = some file' ∧ file'.nodeId = file.nodeId

theorem respected_filesStay {writes : List Write} (hupdate : .updateModelFile ∉ writes) :
    Respected FilesStay writes where
  refl _ _ file hfile := ⟨file, hfile, rfl⟩
  trans _ _ _ h h' id file hfile := by
    obtain ⟨file', hfile', hnode⟩ := h id file hfile
    obtain ⟨file'', hfile'', hnode'⟩ := h' id file' hfile'
    exact ⟨file'', hfile'', hnode'.trans hnode⟩
  exec stmt db hamong id file hfile := by
    obtain ⟨file', hfile', hrewritten⟩ := find?_file_exec_of_some stmt hfile
    refine ⟨file', hfile', ?_⟩
    rcases hrewritten.moves with ⟨hsame, -⟩ | ⟨verified, now, rfl⟩
    · exact hsame
    · exact absurd (hamong _ rfl) hupdate
  models _ _ _ file hfile := ⟨file, hfile, rfl⟩

/-- A file that has been read is stored, on the node that the view has. -/
theorem stored_of_modelFile {id : String} {view : ModelFileView} {db' : Db}
    (hserve : serve (modelFile id) db = (.ok view, db')) :
    view.id = id ∧ ∃ file, db'.modelFiles.find? id = some file ∧ file.nodeId = view.nodeId := by
  unfold modelFile at hserve
  obtain ⟨rows, between, hrows, hfirst⟩ := serve_bind_eq_ok hserve
  obtain ⟨row, between', hrow, hviewed⟩ := serve_bind_eq_ok hfirst
  have hhead := serve_required_ok hrow
  have hsame := serve_of_reads (uses_required (.notFound "model file not found") rows.head?) between
  rw [hrow] at hsame
  obtain rfl : between' = between := hsame
  obtain ⟨now, _, hnow, hend⟩ := serve_bind_eq_ok hviewed
  obtain rfl : between' = _ := congrArg Prod.snd hnow
  have hview : modelFileFromRow now row = view := Except.ok.inj (congrArg Prod.fst hend)
  obtain rfl : between' = db' := congrArg Prod.snd hend
  unfold modelFileRows at hrows
  obtain ⟨_, swept, -, hrest⟩ := serve_bind_eq_ok hrows
  obtain ⟨now', _, hnow', hselect⟩ := serve_bind_eq_ok hrest
  obtain rfl : swept = _ := congrArg Prod.snd hnow'
  obtain ⟨selected, _, hquery, hexpire⟩ := serve_bind_eq_ok hselect
  obtain ⟨hselected, hread⟩ := serve_query_ok hquery
  obtain rfl : swept = _ := hread.symm
  obtain ⟨_, expired, hexpired, hlast⟩ := serve_bind_eq_ok hexpire
  have hreturned : selected = rows := Except.ok.inj (congrArg Prod.fst hlast)
  obtain rfl : expired = between' := congrArg Prod.snd hlast
  have huses : Uses [.expireModelFile] (expireModelFiles now' selected) :=
    uses_expireModelFiles List.mem_cons_self now' selected
  have hstay := huses.respects (respected_filesStay (by decide)) swept
  rw [hexpired] at hstay
  have hmem : row ∈ selected := hreturned ▸ List.mem_of_head? hhead
  rw [hselected, List.mem_mergeSort, List.mem_map] at hmem
  obtain ⟨file, hfile, rfl⟩ := hmem
  rw [List.mem_filter] at hfile
  obtain ⟨hstored, hfilter⟩ := hfile
  have hid : file.id = id := by
    simp only [Option.all_none, Option.all_some, Bool.true_and, Bool.and_eq_true,
      decide_eq_true_eq] at hfilter
    exact hfilter.1
  rw [← hview]
  refine ⟨hid, ?_⟩
  rw [← hid]
  exact hstay file.id file (Table.find?_of_mem hstored)

theorem keepsHome_queueModelFileVerification (id taskId : String) :
    KeepsHome (fun _ => False) (queueModelFileVerification id taskId) := by
  intro db hdb
  have hP := composes_keepsHome fun _ => False
  have hread : KeepsHome (fun _ => False) (modelFile id) := hP.uses (uses_modelFile (by decide) id)
  have hafter := hread db hdb
  unfold queueModelFileVerification
  cases hserve : serve (modelFile id) db with
  | mk outcome db' =>
      rw [hserve] at hafter
      cases outcome with
      | error e =>
          rw [serve_bind_error hserve]
          exact hafter
      | ok view =>
          obtain ⟨hid, file, hfile, hnode⟩ := stored_of_modelFile hserve
          rw [serve_bind_ok hserve, serve_bind_ok (serve_nowUnixSecs db')]
          rcases serve_reads_bind (uses_nodeOnline view.nodeId) _ db' with ⟨e, h⟩ | ⟨online, -, h⟩
          · rw [h]
            exact hafter
          rw [h, serve_bind_ok (serve_execute _ db')]
          have hrest : ∀ accepted, KeepsHome (fun _ => False) (do inserted accepted; modelFile id) :=
            fun accepted => hP.reads_bind (uses_inserted accepted) fun _ => hread
          have hon : db'.On view.nodeId (.file id) := by
            intro file' hfile'
            obtain rfl := Option.some.inj (hfile.symm.trans hfile')
            exact hnode
          refine hrest _ _ (atHome_none (tasksAtHome_enqueue rfl ?_ hon hafter.1))
          rw [← hid]
          rfl

theorem keepsHome_beginCleanup (id taskId : String) :
    KeepsHome (fun _ => False) (beginCleanup id taskId) := by
  intro db hdb
  have hP := composes_keepsHome fun _ => False
  unfold beginCleanup
  rcases serve_reads_bind (uses_modelFileTrashItem id) _ db with ⟨e, h⟩ | ⟨item, hitem, h⟩
  · rw [h]
    exact hdb
  rw [h]
  rcases serve_reads_bind (uses_required _ _) _ db with ⟨e, h⟩ | ⟨nodeId, hnode, h⟩
  · rw [h]
    exact hdb
  rw [h]
  split
  · exact hdb
  rcases serve_reads_bind (uses_nodeOnline nodeId) _ db with ⟨e, h⟩ | ⟨online, -, h⟩
  · rw [h]
    exact hdb
  rw [h]
  split
  · rw [serve_bind_ok (serve_nowUnixSecs db)]
    dsimp only
    rw [serve_bind_ok (serve_execute _ db)]
    have hrest : ∀ accepted, KeepsHome (fun _ => False) (do
        inserted accepted
        execute (.setTrashCleanupPending id taskId db.clock)
        pure (none : Option ModelFileTrashView)) := by
      intro accepted
      apply hP.reads_bind (uses_inserted accepted)
      intro _
      have hpending : Uses settledWrites (execute (.setTrashCleanupPending id taskId db.clock)) :=
        uses_execute rfl (by decide)
      exact keepsHome_bind (hP.uses hpending) fun _ => hP.reads (uses_pure _)
    have hon : db.On nodeId (.trash id) := by
      intro stored hstored
      -- the task is for the node of the item that has been read
      unfold modelFileTrashItem at hitem
      rw [serve_bind_ok (serve_query _ db), hstored] at hitem
      have hsame := serve_required_ok hitem
      rw [← Option.some.inj hsame] at hnode
      exact serve_required_ok hnode
    exact hrest _ _ (atHome_none (tasksAtHome_enqueue rfl rfl hon hdb.1))
  · refine keepsHome_bind (hP.uses ?_) (fun _ => hP.reads (uses_throw _)) db hdb
    exact uses_updateTrashFailure (by decide) id _ _

theorem keepsHome_ensureModelFileTrash {fresh : Entity → Prop} {id : String} (hfresh : fresh (.trash id))
    (modelFileId : String) (reason note : Option String) :
    KeepsHome fresh (ensureModelFileTrash modelFileId reason note id) := by
  have hP := composes_keepsHome fresh
  apply hP.reads_bind (uses_query _)
  intro existingId
  cases existingId with
  | some existingId => exact hP.reads (uses_modelFileTrashItem existingId)
  | none =>
      apply keepsHome_bind (hP.uses (uses_modelFile (by decide) modelFileId))
      intro file
      apply hP.reads_bind uses_nowUnixSecs
      intro now
      refine keepsHome_bind (keepsHome_execute ⟨?_, ?_⟩) fun accepted => ?_
      · intro task henqueues
        cases henqueues
      · intro entity nodeId hsettles
        rw [← (Prod.mk.inj (Option.some.inj hsettles)).1]
        exact hfresh
      · apply hP.reads_bind (uses_inserted accepted)
        intro _
        exact hP.reads (uses_modelFileTrashItem id)

theorem keepsHome_trashModelFiles {fresh : Entity → Prop} {trashId : String → String}
    (hfresh : ∀ fileId, fresh (.trash (trashId fileId))) (fileIds : List String) :
    KeepsHome fresh (trashModelFiles trashId fileIds) := by
  induction fileIds with
  | nil => exact (composes_keepsHome fresh).reads (uses_pure ())
  | cons fileId fileIds ih =>
      exact keepsHome_bind (keepsHome_ensureModelFileTrash (hfresh fileId) fileId _ _) fun _ => ih

theorem keepsHome_trashModel {fresh : Entity → Prop} {trashId : String → String}
    (hfresh : ∀ fileId, fresh (.trash (trashId fileId))) (id : String) :
    KeepsHome fresh (trashModel id trashId) := by
  have hP := composes_keepsHome fresh
  apply hP.reads_bind (uses_query _)
  intro protectedCount
  apply hP.reads_bind (uses_rejectIf _ _)
  intro _
  apply hP.reads_bind (uses_query _)
  intro found
  apply hP.reads_bind (uses_rejectIf _ _)
  intro _
  apply hP.reads_bind (uses_query _)
  intro fileIds
  exact keepsHome_trashModelFiles hfresh fileIds

theorem keepsHome_deleteModelFile {fresh : Entity → Prop} {trashId : String}
    (hfresh : fresh (.trash trashId)) (id : String) : KeepsHome fresh (deleteModelFile id trashId) := by
  have hP := composes_keepsHome fresh
  apply keepsHome_bind (keepsHome_ensureModelFileTrash hfresh id _ _)
  intro _
  apply hP.reads_bind uses_nowUnixSecs
  intro now
  apply keepsHome_bind (hP.uses (uses_execute rfl (by decide)))
  intro found
  split
  · exact hP.reads (uses_pure ())
  · exact hP.reads (uses_throw _)

theorem keepsHome_createModelInstance {fresh : Entity → Prop} {id : String}
    (hfresh : fresh (.instance id)) (deps : External) (request : ModelInstanceCreateRequest) :
    KeepsHome fresh (createModelInstance deps request id) := by
  intro db hdb
  rcases serve_createModelInstance_cases deps request id db with
    ⟨e, hfails⟩ | ⟨row, rfl, -, -, hinserted⟩
  · rw [hfails]
    exact hdb
  · rw [hinserted]
    refine atHomeWithout_exec ⟨?_, ?_⟩ hdb
    · intro task henqueues
      cases henqueues
    · intro entity nodeId hsettles
      rw [← (Prod.mk.inj (Option.some.inj hsettles)).1]
      exact hfresh

end Naming

end LightAI.Server
