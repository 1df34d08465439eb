import LightAI.Server.NodeRequests
import LightAI.Server.ReconciledRows
import LightAI.Server.Sweeps
import LightAI.Server.SweepingRequests

/-!
# What an agent can change of other nodes

A result is accepted from the node that its task is for, and is then written to the row that the task's
payload names, wherever that row is by now. So an agent reaches rows of other nodes exactly when a file is
moved away from a task that names it: as long as that does not happen, whatever an agent sends changes
nothing of other nodes, apart from the timeouts that any request brings about.
-/

namespace LightAI.Server

/-! ### Rows that belong to nodes -/

inductive NodeRow where
  | instanceRow (row : ModelInstance)
  | fileRow (file : ModelFile)
  | trashRow (item : ModelFileTrash)

def NodeRow.nodeId : NodeRow → Option String
  | instanceRow row => row.nodeId
  | fileRow file => some file.nodeId
  | trashRow item => item.nodeId

/-- The row as the timeout of a task for it leaves it. -/
def NodeRow.timedOut (now : Int) : NodeRow → NodeRow
  | instanceRow row => instanceRow (row.check "failed" (some "Local instance task timed out") now)
  | fileRow file => fileRow (file.verifyTimeout now)
  | trashRow item => trashRow (item.failure .cleanupTimeout "file cleanup timed out" now)

theorem NodeRow.timedOut_nodeId (now : Int) (row : NodeRow) : (row.timedOut now).nodeId = row.nodeId := by
  cases row <;> rfl

theorem NodeRow.timedOut_timedOut (now : Int) (row : NodeRow) :
    (row.timedOut now).timedOut now = row.timedOut now := by
  cases row <;> rfl

def Db.row? (db : Db) : Entity → Option NodeRow
  | .instance id => (db.modelInstances.find? id).map .instanceRow
  | .file id => (db.modelFiles.find? id).map .fileRow
  | .trash id => (db.modelFileTrash.find? id).map .trashRow

/-- The row, unless it is the node's. -/
def Db.rowElsewhere (db : Db) (nodeId : String) (entity : Entity) : Option NodeRow :=
  (db.row? entity).filter fun row => row.nodeId ≠ some nodeId

/-- A task that has expired names the row. -/
def Db.Expires (db : Db) (entity : Entity) : Prop :=
  ∃ task ∈ db.agentTasks.rows, task.expired db.clock = true ∧ task.entity = some entity

/-- Of the rows that are not the node's none is changed, but for the timeouts of these. -/
def SparesOthers (nodeId : String) (expired : Entity → Prop) (now : Int) (db db' : Db) : Prop :=
  ∀ entity, db'.rowElsewhere nodeId entity = db.rowElsewhere nodeId entity ∨
    (expired entity ∧
      db'.rowElsewhere nodeId entity = (db.rowElsewhere nodeId entity).map (·.timedOut now))

/-- Between the two states nothing of another node than this one has changed, but for the timeouts of
tasks that have expired. -/
structure Isolated (nodeId : String) (s s' : Fleet) : Prop where
  rows : SparesOthers nodeId s.platform.db.Expires s.platform.db.clock s.platform.db s'.platform.db
  gpus : ∀ key, key.1 ≠ nodeId → s'.gpuStatus.find? key = s.gpuStatus.find? key
  status : ∀ id, id ≠ nodeId → s'.nodeStatus.find? id = s.nodeStatus.find? id
  nodes : ∀ id, id ≠ nodeId → s'.platform.db.nodes.find? id = s.platform.db.nodes.find? id

/-- Whatever an agent sends changes nothing of other nodes. -/
def NodesIsolated (deps : External) (s : Fleet) : Prop :=
  ∀ request : AgentRequest, Isolated request.nodeId s ((FleetEvent.agent request).perform deps s)

/-! ### Rows and their nodes -/

section Rows

variable {db db' db'' : Db} {nodeId : String} {entity : Entity} {expired : Entity → Prop} {now : Int}

theorem on_iff : db.On nodeId entity ↔ ∀ row, db.row? entity = some row → row.nodeId = some nodeId := by
  cases entity <;> simp [Db.On, Db.row?, NodeRow.nodeId]

theorem rowElsewhere_of_on (h : db.On nodeId entity) : db.rowElsewhere nodeId entity = none := by
  unfold Db.rowElsewhere
  rw [Option.filter_eq_none_iff]
  intro row hrow
  have hnode := on_iff.mp h row hrow
  simp [hnode]

theorem rowElsewhere_of_row (h : db'.row? entity = db.row? entity) :
    db'.rowElsewhere nodeId entity = db.rowElsewhere nodeId entity := by
  unfold Db.rowElsewhere
  rw [h]

theorem rowElsewhere_timedOut (h : db'.row? entity = (db.row? entity).map (·.timedOut now)) :
    db'.rowElsewhere nodeId entity = (db.rowElsewhere nodeId entity).map (·.timedOut now) := by
  unfold Db.rowElsewhere
  rw [h]
  cases db.row? entity with
  | none => rfl
  | some row =>
      by_cases hnode : row.nodeId = some nodeId
      · simp [Option.filter_some, NodeRow.timedOut_nodeId, hnode]
      · simp [Option.filter_some, NodeRow.timedOut_nodeId, hnode]

theorem SparesOthers.refl (nodeId : String) (expired : Entity → Prop) (now : Int) (db : Db) :
    SparesOthers nodeId expired now db db := fun _ => .inl rfl

theorem SparesOthers.trans (h : SparesOthers nodeId expired now db db')
    (h' : SparesOthers nodeId expired now db' db'') : SparesOthers nodeId expired now db db'' := by
  intro entity
  rcases h' entity with hsame' | ⟨hexpired, htimedOut'⟩
  · rw [hsame']
    exact h entity
  · refine .inr ⟨hexpired, htimedOut'.trans ?_⟩
    rcases h entity with hsame | ⟨-, htimedOut⟩
    · rw [hsame]
    · -- a second timeout at the same time changes nothing more
      rw [htimedOut, Option.map_map]
      congr 1
      funext row
      exact row.timedOut_timedOut now

/-- Rows that are the node's before and after may be written at will. -/
theorem sparesOthers_of_own
    (h : ∀ entity, db'.row? entity = db.row? entity ∨ (db.On nodeId entity ∧ db'.On nodeId entity)) :
    SparesOthers nodeId expired now db db' := by
  intro entity
  rcases h entity with hsame | ⟨hbefore, hafter⟩
  · exact .inl (rowElsewhere_of_row hsame)
  · left
    rw [rowElsewhere_of_on hbefore, rowElsewhere_of_on hafter]

theorem sparesOthers_of_timeouts
    (h : ∀ entity, db'.row? entity = db.row? entity ∨
      (expired entity ∧ db'.row? entity = (db.row? entity).map (·.timedOut now))) :
    SparesOthers nodeId expired now db db' := by
  intro entity
  rcases h entity with hsame | ⟨hexpired, htimedOut⟩
  · exact .inl (rowElsewhere_of_row hsame)
  · exact .inr ⟨hexpired, rowElsewhere_timedOut htimedOut⟩

end Rows

/-! ### The sweep -/

section Sweep

variable {nodeId : String} {expired : Entity → Prop} {now : Int} {db db' : Db}

theorem map_find?_update {ρ : Type} {key : ρ → String} (t : Table String ρ key) (k : String) (f : ρ → ρ)
    (hf : ∀ row, key (f row) = key row) {wrap : ρ → NodeRow} {g : NodeRow → NodeRow}
    (hg : ∀ row, g (wrap row) = wrap (f row)) (id : String) :
    ((t.update k f hf).find? id).map wrap
      = if k = id then ((t.find? id).map wrap).map g else (t.find? id).map wrap := by
  rw [Table.find?_update]
  by_cases hid : k = id
  · rw [if_pos hid.symm, if_pos hid, Option.map_map, Option.map_map]
    congr 1
    funext row
    exact (hg row).symm
  · rw [if_neg fun h => hid h.symm, if_neg hid]

/-- An update of one file is an update of one row. -/
theorem row?_updateFile (db : Db) (fileId : String) (f : ModelFile → ModelFile)
    (hf : ∀ file, (f file).id = file.id) {g : NodeRow → NodeRow}
    (hg : ∀ file, g (.fileRow file) = .fileRow (f file)) (entity : Entity) :
    ({ db with modelFiles := db.modelFiles.update fileId f hf } : Db).row? entity
      = if some (.file fileId) = some entity then (db.row? entity).map g else db.row? entity := by
  cases entity with
  | file id =>
      simp only [Option.some.injEq, Entity.file.injEq]
      exact map_find?_update db.modelFiles fileId f hf hg id
  | «instance» id => rw [if_neg (by simp)]; rfl
  | trash id => rw [if_neg (by simp)]; rfl

theorem row?_updateInstance (db : Db) (instanceId : String) (f : ModelInstance → ModelInstance)
    (hf : ∀ row, (f row).id = row.id) {g : NodeRow → NodeRow}
    (hg : ∀ row, g (.instanceRow row) = .instanceRow (f row)) (entity : Entity) :
    ({ db with modelInstances := db.modelInstances.update instanceId f hf } : Db).row? entity
      = if some (.instance instanceId) = some entity then (db.row? entity).map g
        else db.row? entity := by
  cases entity with
  | «instance» id =>
      simp only [Option.some.injEq, Entity.instance.injEq]
      exact map_find?_update db.modelInstances instanceId f hf hg id
  | file id => rw [if_neg (by simp)]; rfl
  | trash id => rw [if_neg (by simp)]; rfl

theorem row?_updateTrash (db : Db) (trashId : String) (f : ModelFileTrash → ModelFileTrash)
    (hf : ∀ item, (f item).id = item.id) {g : NodeRow → NodeRow}
    (hg : ∀ item, g (.trashRow item) = .trashRow (f item)) (entity : Entity) :
    ({ db with modelFileTrash := db.modelFileTrash.update trashId f hf } : Db).row? entity
      = if some (.trash trashId) = some entity then (db.row? entity).map g else db.row? entity := by
  cases entity with
  | trash id =>
      simp only [Option.some.injEq, Entity.trash.injEq]
      exact map_find?_update db.modelFileTrash trashId f hf hg id
  | file id => rw [if_neg (by simp)]; rfl
  | «instance» id => rw [if_neg (by simp)]; rfl

/-- The timeout of a task writes the row that it names, and no other. -/
theorem row?_applyTimeout (task : AgentTask) (db : Db) (entity : Entity) :
    (serve (applyTimeout task db.clock) db).2.row? entity
      = if task.entity = some entity then (db.row? entity).map (·.timedOut db.clock)
        else db.row? entity := by
  have hnone : ∀ {h : Handler Unit}, serve h db = (.ok (), db) → task.entity = none →
      (serve h db).2.row? entity
        = if task.entity = some entity then (db.row? entity).map (·.timedOut db.clock)
          else db.row? entity := by
    intro h hserve hentity
    rw [hserve, hentity]
    rfl
  have hinstance : ∀ instanceId, task.entity = some (.instance instanceId) →
      (serve (do
          let _ ← updateInstanceCheck instanceId "failed" (some "Local instance task timed out")
          pure ()) db).2.row? entity
        = if task.entity = some entity then (db.row? entity).map (·.timedOut db.clock)
          else db.row? entity := by
    intro instanceId hentity
    rw [serve_then_pure, (serve_updateInstanceCheck _ _ _ db).1, hentity]
    exact row?_updateInstance db instanceId
      (·.check "failed" (some "Local instance task timed out") db.clock) (fun _ => rfl)
      (fun _ => rfl) entity
  cases hkind : task.kind
  case verifyModelFile =>
    cases hfile : task.payloadJson.getStr "model_file_id" with
    | none =>
        have hentity : task.entity = none := by simp [AgentTask.entity, hkind, hfile]
        simp only [applyTimeout, hkind, hfile]
        exact hnone rfl hentity
    | some fileId =>
        have hentity : task.entity = some (.file fileId) := by simp [AgentTask.entity, hkind, hfile]
        simp only [applyTimeout, hkind, hfile, hentity]
        exact row?_updateFile db fileId (·.verifyTimeout db.clock) (fun _ => rfl) (fun _ => rfl) entity
  case cleanupModelFile =>
    cases htrash : task.payloadJson.getStr "trash_id" with
    | none =>
        have hentity : task.entity = none := by simp [AgentTask.entity, hkind, htrash]
        simp only [applyTimeout, hkind, htrash]
        exact hnone rfl hentity
    | some trashId =>
        have hentity : task.entity = some (.trash trashId) := by simp [AgentTask.entity, hkind, htrash]
        simp only [applyTimeout, hkind, htrash, hentity]
        exact row?_updateTrash db trashId (·.failure .cleanupTimeout "file cleanup timed out" db.clock)
          (fun _ => rfl) (fun _ => rfl) entity
  all_goals first
    | (have hentity : task.entity = none := by simp [AgentTask.entity, hkind]
       simp only [applyTimeout, hkind]
       exact hnone rfl hentity)
    | (cases hid : task.payloadJson.getStr "instance_id" with
       | none =>
           have hentity : task.entity = none := by simp [AgentTask.entity, hkind, hid]
           simp only [applyTimeout, hkind, hid]
           exact hnone rfl hentity
       | some instanceId =>
           simp only [applyTimeout, hkind, hid]
           exact hinstance instanceId (by simp [AgentTask.entity, hkind, hid]))

theorem timeOutTasks_spares {tasks : List AgentTask}
    (htasks : ∀ task ∈ tasks, ∀ entity, task.entity = some entity → expired entity)
    (hclock : db.clock = now) : SparesOthers nodeId expired now db (serve (timeOutTasks now tasks) db).2 := by
  induction tasks generalizing db with
  | nil => exact .refl nodeId expired now db
  | cons task tasks ih =>
      have hmark : serve (markTaskTimedOut task.id) db
          = (.ok (), ((Stmt.markTaskTimedOut task.id db.clock).exec db).2) := rfl
      have hmarked : ((Stmt.markTaskTimedOut task.id db.clock).exec db).2.clock = now := hclock
      have hfirst : SparesOthers nodeId expired now db (serve (applyTimeout task now)
          ((Stmt.markTaskTimedOut task.id db.clock).exec db).2).2 := by
        refine sparesOthers_of_timeouts fun entity => ?_
        have hrow := row?_applyTimeout task ((Stmt.markTaskTimedOut task.id db.clock).exec db).2 entity
        rw [hmarked] at hrow
        by_cases hentity : task.entity = some entity
        · rw [if_pos hentity] at hrow
          exact .inr ⟨htasks task List.mem_cons_self entity hentity, hrow⟩
        · rw [if_neg hentity] at hrow
          exact .inl hrow
      have hclock' := ((uses_applyTimeout (List.Subset.refl sweepWrites) task now).swept
        ((Stmt.markTaskTimedOut task.id db.clock).exec db).2).clock
      unfold timeOutTasks
      rw [serve_bind_ok hmark]
      cases hserve : serve (applyTimeout task now)
          ((Stmt.markTaskTimedOut task.id db.clock).exec db).2 with
      | mk outcome db' =>
          rw [hserve] at hfirst hclock'
          cases outcome with
          | error e =>
              rw [serve_bind_error hserve]
              exact hfirst
          | ok u =>
              rw [serve_bind_ok hserve]
              refine hfirst.trans (ih (fun task' hmem => ?_) (hclock'.trans hmarked))
              exact htasks task' (List.mem_cons_of_mem task hmem)

/-- A sweep lets no further task expire. -/
theorem Swept.expires {entity : Entity} (h : Swept db db') (hexpires : db'.Expires entity) :
    db.Expires entity := by
  obtain ⟨task', hmem, hexpired, hentity⟩ := hexpires
  rcases h.tasks task'.id with ⟨-, hnone⟩ | ⟨task, after, htask, hafter, hkept⟩
  · rw [Table.find?_of_mem hmem] at hnone
    cases hnone
  · obtain rfl := Option.some.inj ((Table.find?_of_mem hmem).symm.trans hafter)
    rcases hkept with rfl | htimedOut
    · rw [h.clock] at hexpired
      exact ⟨task', Table.find?_mem htask, hexpired, hentity⟩
    · simp [AgentTask.expired, htimedOut] at hexpired

/-! ### Polls -/

/-- As long as the expired tasks name only these rows, the handler does nothing but time them out. -/
def TimesOutOnly (nodeId : String) (expired : Entity → Prop) (now : Int) {α : Type} (h : Handler α) : Prop :=
  ∀ db, db.clock = now → (∀ entity, db.Expires entity → expired entity) →
    SparesOthers nodeId expired now db (serve h db).2 ∧ (serve h db).2.clock = now ∧
      ∀ entity, (serve h db).2.Expires entity → expired entity

theorem composes_timesOutOnly (nodeId : String) (expired : Entity → Prop) (now : Int) :
    Composes (fun _ h => TimesOutOnly nodeId expired now h) [] where
  uses huses db hclock hexpires := by
    rw [serve_of_reads huses db]
    exact ⟨.refl nodeId expired now db, hclock, hexpires⟩
  bind {α β h f} hh hf db hclock hexpires := by
    obtain ⟨hspares, hclock', hexpires'⟩ := hh db hclock hexpires
    cases hserve : serve h db with
    | mk outcome db' =>
        rw [hserve] at hspares hclock' hexpires'
        cases outcome with
        | error e =>
            rw [serve_bind_error hserve]
            exact ⟨hspares, hclock', hexpires'⟩
        | ok a =>
            rw [serve_bind_ok hserve]
            obtain ⟨hrest, hend⟩ := hf a db' hclock' hexpires'
            exact ⟨hspares.trans hrest, hend⟩

theorem timesOutOnly_markTimedOutTasks (nodeId : String) (expired : Entity → Prop) (now : Int) :
    TimesOutOnly nodeId expired now markTimedOutTasks := by
  intro db hclock hexpires
  have hswept := (uses_markTimedOutTasks (List.Subset.refl sweepWrites)).swept db
  refine ⟨?_, hswept.clock.trans hclock, fun entity h => hexpires entity (hswept.expires h)⟩
  have hserve : serve markTimedOutTasks db
      = serve (timeOutTasks db.clock (db.agentTasks.rows.filter (·.expired db.clock))) db := rfl
  rw [hserve, hclock]
  refine timeOutTasks_spares (fun task hmem entity hentity => ?_) hclock
  obtain ⟨hstored, hexpired⟩ := List.mem_filter.mp hmem
  rw [← hclock] at hexpired
  exact hexpires entity ⟨task, hstored, hexpired, hentity⟩

/-- A poll ends with a stored task for the node, if it ends with a task. -/
theorem pollLoop_selected {version : Option Int} {waits : List Bool} {row : AgentTask}
    (h : serve (pollLoop nodeId version waits) db = (.ok (.inl row), db')) :
    row ∈ db'.agentTasks.rows ∧ row.nodeId = nodeId := by
  have hnext : ∀ db, serve (nextQueuedAgentTask nodeId) db = (.ok
      ((db.agentTasks.rows.filter fun task =>
        task.nodeId = nodeId && task.status = .queued).argmin (·.createdAt)), db) := fun _ => rfl
  have hselected : ∀ {swept : Db} {selected : AgentTask},
      ((swept.agentTasks.rows.filter fun task =>
        task.nodeId = nodeId && task.status = .queued).argmin (·.createdAt)) = some selected →
      serve (pure (.inl selected) : Handler (AgentTask ⊕ AgentConfig)) swept = (.ok (.inl row), db') →
      row ∈ db'.agentTasks.rows ∧ row.nodeId = nodeId := by
    intro swept selected hqueued hend
    obtain ⟨hmem, hnode, -⟩ := nextQueued_spec hqueued
    obtain rfl : selected = row := Sum.inl.inj (Except.ok.inj (congrArg Prod.fst hend))
    obtain rfl : swept = db' := congrArg Prod.snd hend
    exact ⟨hmem, hnode⟩
  induction waits generalizing db with
  | nil =>
      unfold pollLoop at h
      obtain ⟨_, swept, -, hend⟩ := serve_bind_eq_ok h
      rw [serve_bind_ok (hnext swept)] at hend
      split at hend
      · rename_i selected hqueued
        exact hselected hqueued hend
      · obtain ⟨config, between, -, hconfig⟩ := serve_bind_eq_ok hend
        cases congrArg Prod.fst hconfig
  | cons notified waits ih =>
      unfold pollLoop at h
      obtain ⟨_, swept, -, hend⟩ := serve_bind_eq_ok h
      rw [serve_bind_ok (hnext swept)] at hend
      split at hend
      · rename_i selected hqueued
        exact hselected hqueued hend
      · cases notified with
        | false => exact ih hend
        | true =>
            rw [if_pos rfl] at hend
            obtain ⟨config, between, -, hconfig⟩ := serve_bind_eq_ok hend
            obtain ⟨next, between', -, hlast⟩ := serve_bind_eq_ok hconfig
            split at hlast
            · cases congrArg Prod.fst hlast
            · exact ih hlast

end Sweep

/-! ### Requests of agents -/

section Requests

variable {nodeId : String} {expired : Entity → Prop} {now : Int} {db : Db}

/-- The kinds of writes of dispatches and results. -/
def taskWrites : List Write := [.claimAgentTask, .setFileVerifying, .setTrashCleanupRunning, .recordResult]

/-- The row that such a write is made to. -/
def Stmt.rowWritten : Stmt → Option Entity
  | setFileVerifying fileId _ => some (.file fileId)
  | setTrashCleanupRunning trashId _ => some (.trash trashId)
  | recordResult selected _ _ _ => selected.entity
  | _ => none

theorem among_of_write {stmt : Stmt} {w : Write} {writes : List Write} (hwrite : stmt.write = some w)
    (hmem : w ∈ writes) : stmt.Among writes := by
  intro w' hw'
  rwa [← Option.some.inj (hwrite.symm.trans hw')]

theorem map_find?_update_of_ne {ρ : Type} {key : ρ → String} (t : Table String ρ key) {k id : String}
    (f : ρ → ρ) (hf : ∀ row, key (f row) = key row) (wrap : ρ → NodeRow) (hne : id ≠ k) :
    ((t.update k f hf).find? id).map wrap = (t.find? id).map wrap := by
  rw [Table.find?_update, if_neg hne]

theorem row?_exec_of_other {stmt : Stmt} (hamong : stmt.Among taskWrites) {entity : Entity}
    (hother : stmt.rowWritten ≠ some entity) : (stmt.exec db).2.row? entity = db.row? entity := by
  cases stmt with
  | select query => rfl
  | claimAgentTask selected now leaseUntil => cases entity <;> rfl
  | setFileVerifying fileId now =>
      cases entity with
      | file id =>
          refine map_find?_update_of_ne db.modelFiles (·.verifying now) (fun _ => rfl) .fileRow fun h => ?_
          exact hother (by rw [h]; rfl)
      | «instance» id => rfl
      | trash id => rfl
  | setTrashCleanupRunning trashId now =>
      cases entity with
      | trash id =>
          refine map_find?_update_of_ne db.modelFileTrash (·.cleanupRunning now) (fun _ => rfl) .trashRow
            fun h => ?_
          exact hother (by rw [h]; rfl)
      | «instance» id => rfl
      | file id => rfl
  | recordResult selected status result now =>
      have hselected : selected.entity ≠ some entity := hother
      cases entity with
      | file id =>
          simp only [Db.row?, exec_recordResult_modelFiles]
          split
          · rename_i fileId hentity
            exact map_find?_update_of_ne _ _ _ _ fun h => hselected (by rw [h, hentity])
          · rfl
      | «instance» id =>
          simp only [Db.row?, exec_recordResult_modelInstances]
          split
          · rename_i instanceId hentity
            exact map_find?_update_of_ne _ _ _ _ fun h => hselected (by rw [h, hentity])
          · rfl
      | trash id =>
          simp only [Db.row?, exec_recordResult_modelFileTrash]
          split
          · rename_i trashId hentity
            exact map_find?_update_of_ne _ _ _ _ fun h => hselected (by rw [h, hentity])
          · rfl
  | _ => exact absurd (hamong _ rfl) (by decide)

theorem settles_of_among {stmt : Stmt} (hamong : stmt.Among taskWrites) : stmt.settles = none := by
  cases stmt with
  | insertModelFile file => exact absurd (hamong _ rfl) (by decide)
  | updateModelFile fileId => exact absurd (hamong _ rfl) (by decide)
  | insertTrash item => exact absurd (hamong _ rfl) (by decide)
  | insertModelInstance row => exact absurd (hamong _ rfl) (by decide)
  | _ => rfl

/-- A write to a row of the node. -/
theorem sparesOthers_exec {stmt : Stmt} (hamong : stmt.Among taskWrites)
    (hown : ∀ entity, stmt.rowWritten = some entity → db.On nodeId entity) :
    SparesOthers nodeId expired now db (stmt.exec db).2 := by
  refine sparesOthers_of_own fun entity => ?_
  by_cases hwritten : stmt.rowWritten = some entity
  · refine .inr ⟨hown entity hwritten, on_exec (hown entity hwritten) fun node hnode => ?_⟩
    rw [settles_of_among hamong] at hnode
    cases hnode
  · exact .inl (row?_exec_of_other hamong hwritten)

theorem markDispatched_spares {row : AgentTask} (now' : Int)
    (hon : ∀ entity, row.entity = some entity → db.On nodeId entity) :
    SparesOthers nodeId expired now db (serve (markDispatched row now') db).2 := by
  have hrefl := SparesOthers.refl nodeId expired now db
  have hexec : ∀ stmt : Stmt, stmt.Among taskWrites → stmt.rowWritten = row.entity →
      SparesOthers nodeId expired now db (stmt.exec db).2 :=
    fun stmt hamong hwritten => sparesOthers_exec hamong (by rw [hwritten]; exact hon)
  cases hkind : row.kind
  case verifyModelFile =>
    cases hfile : row.payloadJson.getStr "model_file_id" with
    | none =>
        simp only [markDispatched, hkind, hfile]
        exact hrefl
    | some fileId =>
        simp only [markDispatched, hkind, hfile]
        have hentity : row.entity = some (.file fileId) := by simp [AgentTask.entity, hkind, hfile]
        exact hexec (.setFileVerifying fileId now') (among_of_write rfl (by decide)) hentity.symm
  case cleanupModelFile =>
    cases htrash : row.payloadJson.getStr "trash_id" with
    | none =>
        simp only [markDispatched, hkind, htrash]
        exact hrefl
    | some trashId =>
        simp only [markDispatched, hkind, htrash]
        have hentity : row.entity = some (.trash trashId) := by simp [AgentTask.entity, hkind, htrash]
        exact hexec (.setTrashCleanupRunning trashId now') (among_of_write rfl (by decide)) hentity.symm
  all_goals
    simp only [markDispatched, hkind]
    exact hrefl

theorem dispatch_spares {row : AgentTask} (hon : ∀ entity, row.entity = some entity → db.On nodeId entity) :
    SparesOthers nodeId expired now db (serve (dispatchAgentTask nodeId row) db).2 := by
  let claim := Stmt.claimAgentTask row db.clock (db.clock + agentTaskLeaseSecs)
  have hclaim : serve (execute claim : Handler Unit) db = (.ok (), (claim.exec db).2) := rfl
  have hclaimed : ∀ entity, row.entity = some entity → (claim.exec db).2.On nodeId entity := by
    intro entity hentity
    exact on_exec (hon entity hentity) fun node hnode => by cases hnode
  have hspared : SparesOthers nodeId expired now db (claim.exec db).2 :=
    sparesOthers_exec (among_of_write rfl (by decide)) fun entity hwritten => by cases hwritten
  have hmarked : SparesOthers nodeId expired now (claim.exec db).2
      (serve (markDispatched row db.clock) (claim.exec db).2).2 := markDispatched_spares db.clock hclaimed
  obtain ⟨db', hmark⟩ := serve_markDispatched row db.clock (claim.exec db).2
  have hrest : Uses [] (do
      let stored ← query fun db => db.agentTasks.find? row.id
      let stored ← required rowNotFound stored
      let agentConfig ← effectiveAgentConfig nodeId
      pure { task := some (agentTaskFromRow stored), agentConfig : AgentTaskPollResponse }) := by
    apply uses_bind (uses_query _)
    intro stored
    apply uses_bind (uses_required _ stored)
    intro stored
    exact uses_bind (uses_effectiveAgentConfig nodeId) fun _ => uses_pure _
  have hserve : (serve (dispatchAgentTask nodeId row) db).2 = db' := by
    unfold dispatchAgentTask
    rw [serve_bind_ok (serve_nowUnixSecs db)]
    refine (congrArg Prod.snd (serve_bind_ok hclaim _)).trans ?_
    rw [serve_bind_ok hmark]
    exact serve_of_reads hrest db'
  rw [hmark] at hmarked
  rw [hserve]
  exact hspared.trans hmarked

theorem recordedResult_home {taskId : String} {request : AgentTaskResultRequest} {task : AgentTask}
    {status : ResultStatus} (h : recordedResult db taskId request = some (task, status)) :
    db.agentTasks.find? taskId = some task ∧ task.nodeId = request.nodeId := by
  refine ⟨recordedResult_task h, ?_⟩
  unfold recordedResult at h
  split at h
  · rename_i found _ hfound _
    obtain ⟨rfl, -⟩ := Prod.mk.inj (Option.some.inj h)
    simpa using (Option.filter_eq_some_iff.mp hfound).2
  · cases h

theorem serve_recordHeartbeat (request : HeartbeatRequest) (db : Db) :
    (serve (recordHeartbeat request) db).2 = ((Stmt.recordHeartbeat request db.clock).exec db).2 := by
  have hserve := serve_execute (.recordHeartbeat request db.clock) db
  have hrest : ∀ outcome : Except DomainError Bool,
      Uses [] (do let _ ← checked outcome; pure ()) :=
    fun outcome => uses_bind (uses_checked outcome) fun _ => uses_pure ()
  unfold recordHeartbeat
  rw [serve_bind_ok (serve_nowUnixSecs db)]
  exact (congrArg Prod.snd (serve_bind_ok hserve _)).trans (serve_of_reads (hrest _) _)

theorem pollAgentTask_spares (hdb : TasksAtHome db) (version : Option Int) (waits : List Bool) :
    SparesOthers nodeId db.Expires db.clock db (serve (pollAgentTask nodeId version waits) db).2 := by
  have hloop := (composes_timesOutOnly nodeId db.Expires db.clock).pollLoop
    (timesOutOnly_markTimedOutTasks nodeId db.Expires db.clock) nodeId version waits
  obtain ⟨hspares, -⟩ := hloop db rfl fun _ h => h
  have hkeeps : KeepsHome (fun _ => False) (pollLoop nodeId version waits) :=
    (composes_keepsHome _).uses (uses_pollLoop (by decide) nodeId version waits)
  have hafter := hkeeps db (atHome_none hdb)
  unfold pollAgentTask
  cases hserve : serve (pollLoop nodeId version waits) db with
  | mk outcome db' =>
      rw [hserve] at hspares hafter
      cases outcome with
      | error e =>
          rw [serve_bind_error hserve]
          exact hspares
      | ok selected =>
          rw [serve_bind_ok hserve]
          cases selected with
          | inr config => exact hspares
          | inl row =>
              obtain ⟨hmem, hnode⟩ := pollLoop_selected hserve
              refine hspares.trans (dispatch_spares fun entity hentity => ?_)
              rw [← hnode]
              exact hafter.1 row hmem entity hentity

theorem recordAgentTaskResult_spares (hdb : TasksAtHome db) (taskId : String)
    (request : AgentTaskResultRequest) :
    SparesOthers request.nodeId expired now db (serve (recordAgentTaskResult taskId request) db).2 := by
  rw [serve_recordAgentTaskResult]
  cases hrecorded : recordedResult db taskId request with
  | none => exact .refl _ _ _ _
  | some recorded =>
      obtain ⟨task, status⟩ := recorded
      obtain ⟨htask, hnode⟩ := recordedResult_home hrecorded
      refine sparesOthers_exec (among_of_write rfl (by decide)) fun entity hentity => ?_
      rw [← hnode]
      exact hdb task (Table.find?_mem htask) entity hentity

/-- Of the instances of other nodes a heartbeat leaves each as it is. -/
theorem reconciledRow_elsewhere {reports : List ManagedInstanceReport} {row : ModelInstance}
    (helsewhere : row.nodeId ≠ some nodeId) : reconciledRow db nodeId reports now row = row := by
  have hlocal : ¬ row.isLocalOn nodeId := fun h => helsewhere h.1
  have hexpects : ¬ expectsReport db nodeId row = true := by
    rw [expectsReport_iff]
    exact fun h => hlocal h.1
  unfold reconciledRow
  rw [if_neg fun h => hexpects h.1]
  exact reportedRow_of_untaken now fun h => hlocal h.1

theorem reconciledRow_nodeId (reports : List ManagedInstanceReport) (row : ModelInstance) :
    (reconciledRow db nodeId reports now row).nodeId = row.nodeId := by
  unfold reconciledRow
  split
  · rfl
  · exact (reportedRow_kept nodeId now reports row).2.1

theorem recordHeartbeat_spares (request : HeartbeatRequest) :
    SparesOthers request.nodeId expired now db (serve (recordHeartbeat request) db).2 := by
  rw [serve_recordHeartbeat]
  cases hnode : db.nodes.find? request.nodeId with
  | none =>
      simp only [Stmt.exec, hnode]
      exact .refl _ _ _ _
  | some node =>
      simp only [Stmt.exec, hnode]
      refine sparesOthers_of_own fun entity => ?_
      cases entity with
      | file id => exact .inl rfl
      | trash id => exact .inl rfl
      | «instance» id =>
          simp only [Db.row?, Db.On, find?_reconcile]
          cases hrow : db.modelInstances.find? id with
          | none => exact .inl rfl
          | some row =>
              by_cases hown : row.nodeId = some request.nodeId
              · right
                constructor
                · intro row' hrow'
                  rw [← Option.some.inj hrow']
                  exact hown
                · intro row' hrow'
                  rw [← Option.some.inj hrow']
                  exact (reconciledRow_nodeId request.managedInstances row).trans hown
              · left
                rw [Option.map_some, reconciledRow_elsewhere hown]

theorem nodes_exec_taskWrites {stmt : Stmt} (hamong : stmt.Among (sweepWrites ++ taskWrites)) (db : Db) :
    (stmt.exec db).2.nodes = db.nodes := by
  cases stmt with
  | recordResult selected status result now =>
      exact exec_recordResult_projection Db.nodes (fun _ _ => rfl) (fun _ _ _ _ => rfl)
        (fun _ _ _ _ => rfl) (fun _ _ _ _ => rfl) status result now
  | select query => rfl
  | claimAgentTask selected now leaseUntil => rfl
  | markTaskTimedOut taskId now => rfl
  | setFileVerifying fileId now => rfl
  | setFileVerifyTimeout fileId now => rfl
  | setTrashCleanupRunning trashId now => rfl
  | updateTrashFailure trashId status message now => rfl
  | updateInstanceCheck instanceId status error now => rfl
  | _ => exact absurd (hamong _ rfl) (by decide)

theorem nodes_of_uses {α : Type} {h : Handler α} (huses : Uses (sweepWrites ++ taskWrites) h) (db : Db) :
    (serve h db).2.nodes = db.nodes :=
  (Program.Performs.run_rel (R := fun db db' => db.nodes = db'.nodes) (fun _ => rfl)
    (fun _ _ _ => Eq.trans) (fun _ db hamong => (nodes_exec_taskWrites hamong db).symm) huses db).symm

theorem nodes_recordHeartbeat (request : HeartbeatRequest) {id : String} (hid : id ≠ request.nodeId) :
    (serve (recordHeartbeat request) db).2.nodes.find? id = db.nodes.find? id := by
  rw [serve_recordHeartbeat]
  cases hnode : db.nodes.find? request.nodeId with
  | none => simp only [Stmt.exec, hnode]
  | some node =>
      simp only [Stmt.exec, hnode, reconcileManagedInstances]
      rw [Table.find?_update, if_neg hid]

end Requests

/-! ### The tables of the nodes' state -/

section Devices

variable {s : Fleet}

theorem find?_samples_elsewhere {nodeId : String} (sampledAt : Int) (gpus : List Nodes.GpuMetrics)
    (db : Nodes.NodesDb) {key : String × String} (hkey : key.1 ≠ nodeId) :
    (gpus.foldl (Nodes.upsertGpuStatus nodeId sampledAt) db).gpuStatus.find? key
      = db.gpuStatus.find? key := by
  rcases Nodes.find?_samples nodeId sampledAt gpus db key with ⟨gpu, -, hsame, -⟩ | ⟨-, hkept⟩
  · exact absurd (congrArg Prod.fst hsame) hkey
  · exact hkept

/-- The devices of other nodes are neither sampled nor marked as missing. -/
theorem gpuStatus_recordHeartbeat_elsewhere (request : Nodes.HeartbeatRequest) (db : Nodes.NodesDb)
    {key : String × String} (hkey : key.1 ≠ request.nodeId) :
    (Nodes.recordHeartbeat request db).gpuStatus.find? key = db.gpuStatus.find? key := by
  unfold Nodes.recordHeartbeat
  dsimp only
  split
  · refine (Table.find?_updateWhere _ _ _ (Nodes.GpuStatus.missing_key request.sampledAt) key).trans ?_
    rw [find?_samples_elsewhere _ _ _ hkey]
    cases hrow : db.gpuStatus.find? key with
    | none => rfl
    | some row =>
        have hnode : row.nodeId ≠ request.nodeId := by
          rw [← Table.find?_key hrow] at hkey
          exact hkey
        simp [hnode]
  · rw [find?_samples_elsewhere _ _ _ hkey]

theorem gpuStatus_recordStatus (request : AgentHeartbeat) {key : String × String}
    (hkey : key.1 ≠ request.nodeId) :
    (s.recordStatus request).gpuStatus.find? key = s.gpuStatus.find? key := by
  unfold Fleet.recordStatus
  split
  · exact gpuStatus_recordHeartbeat_elsewhere request.devices _ hkey
  · rfl

theorem nodeStatus_recordStatus (request : AgentHeartbeat) {id : String} (hid : id ≠ request.nodeId) :
    (s.recordStatus request).nodeStatus.find? id = s.nodeStatus.find? id := by
  unfold Fleet.recordStatus
  split
  · exact (Table.find?_upsert _ _ _ _ id).trans (if_neg hid)
  · rfl

end Devices

/-! ### Whatever an agent sends -/

section Isolation

variable {deps : External} {s : Fleet}

theorem db_agent (deps : External) (s : Fleet) (request : AgentRequest) :
    ((FleetEvent.agent request).perform deps s).platform.db
      = (serve (request.request.begin deps) s.platform.db).2 := by
  refine Eq.trans ?_ (db_begin_plain deps request.request s.platform.db)
  cases request <;> rfl

theorem isolated_of_tasksAtHome (hs : TasksAtHome s.platform.db) : NodesIsolated deps s := by
  intro request
  cases request with
  | heartbeat request =>
      have hdb : ((FleetEvent.agent (.heartbeat request)).perform deps s).platform.db
          = (serve (recordHeartbeat request.reports) s.platform.db).2 :=
        (db_agent deps s _).trans (serve_ended_answered _ _)
      constructor
      · rw [hdb]
        exact recordHeartbeat_spares request.reports
      · exact fun key hkey => gpuStatus_recordStatus request hkey
      · exact fun id hid => nodeStatus_recordStatus request hid
      · rw [hdb]
        exact fun id hid => nodes_recordHeartbeat request.reports hid
  | poll nodeId version waits =>
      have hdb : ((FleetEvent.agent (.poll nodeId version waits)).perform deps s).platform.db
          = (serve (pollAgentTask nodeId version waits) s.platform.db).2 := by
        rw [db_agent]
        exact (serve_then_pure _ _ _).trans (serve_then_pure _ _ _)
      have huses : Uses (sweepWrites ++ taskWrites) (pollAgentTask nodeId version waits) :=
        uses_pollAgentTask (by decide) (by decide) nodeId version waits
      refine ⟨?_, fun _ _ => rfl, fun _ _ => rfl, fun id _ => ?_⟩
      · rw [hdb]
        exact pollAgentTask_spares hs version waits
      · rw [hdb, nodes_of_uses huses]
  | result taskId request =>
      have hdb : ((FleetEvent.agent (.result taskId request)).perform deps s).platform.db
          = (serve (recordAgentTaskResult taskId request) s.platform.db).2 :=
        (db_agent deps s _).trans (serve_ended_answered _ _)
      have huses : Uses (sweepWrites ++ taskWrites) (recordAgentTaskResult taskId request) :=
        uses_recordAgentTaskResult (by decide) taskId request
      refine ⟨?_, fun _ _ => rfl, fun _ _ => rfl, fun id _ => ?_⟩
      · rw [hdb]
        exact recordAgentTaskResult_spares hs taskId request
      · rw [hdb, nodes_of_uses huses]

theorem rowElsewhere_file {db : Db} {nodeId id : String} {file : ModelFile}
    (hfile : db.modelFiles.find? id = some file) (hnode : file.nodeId ≠ nodeId) :
    db.rowElsewhere nodeId (.file id) = some (.fileRow file) := by
  simp [Db.rowElsewhere, Db.row?, hfile, Option.filter_some, NodeRow.nodeId, hnode]

/-- A status that a verification may report and that a file does not have. -/
def otherStatus (file : ModelFile) : String := if file.status = "verified" then "failed" else "verified"

theorem otherStatus_ne (file : ModelFile) :
    otherStatus file ≠ file.status ∧ otherStatus file ≠ "verify_timeout" := by
  unfold otherStatus
  by_cases hverified : file.status = "verified"
  · rw [if_pos hverified, hverified]
    decide
  · rw [if_neg hverified]
    exact ⟨fun h => hverified h.symm, by decide⟩

/-- The result of a task that names a file on another node is written to that file. -/
theorem not_isolated_of_namedAway {task : AgentTask} {file : ModelFile}
    (h : s.platform.db.NamedAway task file) : ¬ NodesIsolated deps s := by
  intro hisolated
  let result : Json := .obj [("file_status", .str (otherStatus file))]
  let request : AgentTaskResultRequest := { nodeId := task.nodeId, status := "failed", result }
  have hstored : s.platform.db.modelFiles.find? file.id = some file := Table.find?_of_mem h.fileStored
  have hrecorded : recordedResult s.platform.db task.id request = some (task, .failed) := by
    have hown : (s.platform.db.agentTasks.find? task.id).filter (·.nodeId = request.nodeId) = some task := by
      rw [Table.find?_of_mem h.taskStored]
      simp [request]
    have hfailed : resultStatus request.status = some .failed := rfl
    unfold recordedResult
    rw [hown, hfailed]
  have hdb : ((FleetEvent.agent (.result task.id request)).perform deps s).platform.db
      = ((Stmt.recordResult task .failed result s.platform.db.clock).exec s.platform.db).2 := by
    refine (db_agent deps s _).trans ((serve_ended_answered _ _).trans ?_)
    rw [serve_recordAgentTaskResult, hrecorded]
  have hstatus : (file.verified .failed result s.platform.db.clock).status = otherStatus file := rfl
  have hwritten : ((Stmt.recordResult task .failed result s.platform.db.clock).exec
      s.platform.db).2.modelFiles.find? file.id
        = some (file.verified .failed result s.platform.db.clock) := by
    rw [exec_recordResult_modelFiles, h.names]
    refine (Table.find?_update _ _ _ _ _).trans ?_
    rw [if_pos rfl, hstored]
    rfl
  have hbefore := rowElsewhere_file hstored h.away
  have hafter : ((FleetEvent.agent (.result task.id request)).perform deps
      s).platform.db.rowElsewhere task.nodeId (.file file.id)
        = some (.fileRow (file.verified .failed result s.platform.db.clock)) := by
    rw [hdb]
    exact rowElsewhere_file hwritten h.away
  rcases (hisolated (.result task.id request)).rows (.file file.id) with hsame | ⟨-, htimedOut⟩
  · have hrow := Option.some.inj (hafter.symm.trans (hsame.trans hbefore))
    have hkept := congrArg ModelFile.status (NodeRow.fileRow.inj hrow)
    exact (otherStatus_ne file).1 (hstatus.symm.trans hkept)
  · have hrow : some _ = Option.map _ _ := hafter.symm.trans (htimedOut.trans (congrArg _ hbefore))
    have hkept := congrArg ModelFile.status (NodeRow.fileRow.inj (Option.some.inj hrow))
    exact (otherStatus_ne file).2 (hstatus.symm.trans hkept)

/-! ### Runs -/

/-- The ids of new rows are not those of tasks' rows. -/
def FreshRows (s : Fleet) (e : FleetEvent) : Prop :=
  ∀ op, e.operation? = some op → NewRowsUnnamed s.platform op

/-- No update of a file that comes to its write moves the file away from a task that names it. -/
def MovesNoNamedFile (s : Fleet) (e : FleetEvent) : Prop :=
  ∀ op, e.operation? = some op → MovesWithTasks s.platform op

theorem platform_perform {e : FleetEvent} {op : PlatformOperation} (hop : e.operation? = some op) :
    (e.perform deps s).platform = op.perform deps s.platform := by
  unfold FleetEvent.perform
  dsimp only
  rw [hop]

theorem perform_of_none {e : FleetEvent} (hop : e.operation? = none) : e.perform deps s = s := by
  unfold FleetEvent.perform
  dsimp only
  rw [hop]

theorem tasksAtHome_fleet {e : FleetEvent} (hs : TasksAtHome s.platform.db) (hfresh : FreshRows s e)
    (hmoves : MovesNoNamedFile s e) : TasksAtHome (e.perform deps s).platform.db := by
  cases hop : e.operation? with
  | none =>
      rw [perform_of_none hop]
      exact hs
  | some op =>
      rw [platform_perform hop]
      exact tasksAtHome_perform deps hs (hfresh op hop) (hmoves op hop)

theorem not_isolated_of_moved {e : FleetEvent} (h : ¬ MovesNoNamedFile s e) :
    ¬ NodesIsolated deps (e.perform deps s) := by
  simp only [MovesNoNamedFile, not_forall] at h
  obtain ⟨op, hop, hmoved⟩ := h
  obtain ⟨task, file, hnamed⟩ := namedAway_of_moved deps hmoved
  rw [← platform_perform hop] at hnamed
  exact not_isolated_of_namedAway hnamed

/-- In a run that starts without tasks no agent can change anything of another node, in any state that the
run passes through, exactly if no update moves a file away from a task that names it. -/
theorem nodes_isolated_iff (deps : External) (start : Fleet) (events : List FleetEvent)
    (hstart : start.platform.db.agentTasks.rows = [])
    (hfresh : Trace.Along (fun s e => FleetEvent.perform deps s e) FreshRows start events) :
    Trace.Always (fun s e => FleetEvent.perform deps s e) (NodesIsolated deps) start events ↔
      Trace.Along (fun s e => FleetEvent.perform deps s e) MovesNoNamedFile start events := by
  constructor
  · intro hisolated
    rw [Trace.along_iff]
    intro pre e post hsplit
    by_contra hmoved
    have hthere := hisolated (pre ++ [e]) post (by rw [hsplit, List.append_assoc, List.singleton_append])
    rw [Trace.run_append] at hthere
    exact not_isolated_of_moved hmoved hthere
  · intro hmoves
    have hinit : TasksAtHome start.platform.db := by
      intro task htask
      rw [hstart] at htask
      cases htask
    have hstep : ∀ s e, TasksAtHome (Fleet.platform s).db → FreshRows s e ∧ MovesNoNamedFile s e →
        TasksAtHome (e.perform deps s).platform.db := fun s e hs h => tasksAtHome_fleet hs h.1 h.2
    exact Trace.always_of_invariant hstep (fun s hs => isolated_of_tasksAtHome hs) hinit
      (hfresh.and hmoves)

/-- A verification is queued on the first of two nodes and polled, and the second node sends a result. -/
theorem nodes_isolated_example :
    Trace.Always (fun s e => FleetEvent.perform noExternal s e) (NodesIsolated noExternal)
      { platform := { db := twoNodesDb } }
      [.operation (.serve (.plain (.queueModelFileVerification "f" "v"))), .agent (.poll "n" none []),
        .agent (.result "v" { nodeId := "n2", status := "failed", result := .obj [] })] := by
  refine (nodes_isolated_iff noExternal { platform := { db := twoNodesDb } } _ rfl ?_).mpr ?_
  · refine ⟨?_, ?_, ?_, trivial⟩
    all_goals
      rintro op ⟨⟩ request ⟨⟩
      exact fun _ _ _ _ hgiven => hgiven
  · refine ⟨?_, ?_, ?_, trivial⟩
    all_goals
      rintro op ⟨⟩
      trivial

end Isolation

end LightAI.Server
