import LightAI.Server.Reconcile
import LightAI.Server.Dispatch
import LightAI.Server.TimeoutTargets

/-!
# Requests served one at a time

What the requests that agents and users make about instances do to the board when nothing comes in
between. A request that waits for a task is served in two parts: it enqueues its task, and later it meets
its deadline or not.
-/

namespace LightAI.Server

section Rules

variable {α β : Type}

theorem serve_of_reads {h : Handler α} (huses : Uses [] h) (db : Db) : (serve h db).2 = db := by
  have hread : ∀ (stmt : Stmt) db, stmt.Among [] → db = (stmt.exec db).2 := by
    intro stmt db hamong
    cases stmt with
    | select q => rfl
    | _ => exact nomatch hamong _ rfl
  exact (Program.Performs.run_rel (fun _ => rfl) (fun _ _ _ => Eq.trans) hread huses db).symm

/-- A read comes first: the handler ends there with an error, or goes on with what has been read. -/
theorem serve_reads_bind {h : Handler α} (huses : Uses [] h) (f : α → Handler β) (db : Db) :
    (∃ e, serve (h >>= f) db = (.error e, db)) ∨
      ∃ a, serve h db = (.ok a, db) ∧ serve (h >>= f) db = serve (f a) db := by
  have hsame := serve_of_reads huses db
  cases hserve : serve h db with
  | mk outcome db' =>
      rw [hserve] at hsame
      dsimp only at hsame
      subst hsame
      cases outcome with
      | error e => exact .inl ⟨e, serve_bind_error hserve f⟩
      | ok a => exact .inr ⟨a, rfl, serve_bind_ok hserve f⟩

/-- Some of the kinds of writes that the board does not show. -/
def unseenWrites : List Write :=
  [.setFileVerifying, .setFileVerifyTimeout, .setTrashCleanupRunning, .updateTrashFailure,
    .updateLocalInstance, .updateRuntime, .updateRuntimeCheck]

theorem board_exec_of_unseen {stmt : Stmt} (h : stmt.Among unseenWrites) (db : Db) :
    (stmt.exec db).2.board = db.board := by
  cases stmt with
  | select q => rfl
  | setFileVerifying fileId now => exact board_congr rfl rfl
  | setFileVerifyTimeout fileId now => exact board_congr rfl rfl
  | setTrashCleanupRunning trashId now => exact board_congr rfl rfl
  | updateTrashFailure trashId status message now => exact board_congr rfl rfl
  | updateLocalInstance instanceId update now =>
      exact board_update_instance_of_same fun _ _ => rfl
  | updateRuntime runtimeId update now => exact board_congr rfl rfl
  | updateRuntimeCheck runtimeId status message now => exact board_congr rfl rfl
  | _ => exact absurd (h _ rfl) (by decide)

theorem Uses.board_eq {writes : List Write} {h : Handler α} (huses : Uses writes h)
    (hsub : writes ⊆ unseenWrites) (db : Db) : (serve h db).2.board = db.board := by
  have hunseen : ∀ (stmt : Stmt) db, stmt.Among writes → db.board = (stmt.exec db).2.board :=
    fun stmt db hamong => (board_exec_of_unseen (fun w hw => hsub (hamong w hw)) db).symm
  exact (Program.Performs.run_rel (R := fun db db' => db.board = db'.board) (fun _ => rfl)
    (fun _ _ _ => Eq.trans) hunseen huses db).symm

/-- No request removes a task or changes what its payload names. -/
theorem taskNames_serve (h : Handler α) {db : Db} {id : String} {entity : Option Entity}
    (hnames : TaskNames db id entity) : TaskNames (serve h db).2 id entity := by
  have hall : h.run.Performs fun _ => True := Program.performs_true h.run
  exact Program.Performs.run_rel (R := fun db db' => TaskNames db id entity → TaskNames db' id entity)
    (fun _ h => h) (fun _ _ _ h h' => h' ∘ h) (fun stmt _ _ => taskNames_exec stmt) hall db hnames

theorem serve_rejectIf_ok {condition : Bool} {e : DomainError} {u : Unit} {db db' : Db}
    (h : serve (rejectIf condition e) db = (.ok u, db')) : condition = false := by
  cases condition with
  | false => rfl
  | true => exact nomatch congrArg Prod.fst h

theorem serve_required_ok {e : DomainError} {value : Option α} {a : α} {db db' : Db}
    (h : serve (required e value) db = (.ok a, db')) : value = some a := by
  cases value with
  | none => exact nomatch congrArg Prod.fst h
  | some a' => rw [Except.ok.inj (congrArg Prod.fst h)]

theorem serve_checked_eq_ok {value : Except DomainError α} {a : α} {db db' : Db}
    (h : serve (checked value) db = (.ok a, db')) : value = .ok a := by
  cases value with
  | error e => exact nomatch congrArg Prod.fst h
  | ok a' => rw [Except.ok.inj (congrArg Prod.fst h)]

end Rules

/-! ### Enqueueing a task for an instance -/

/-- `db'` is `db` after a task for a local instance has been enqueued. -/
def Enqueued (id : String) (kind : TaskKind) (pendingStatus taskId : String) (db db' : Db) : Prop :=
  ∃ (task : NewAgentTask) (row : ModelInstance),
    task.id = taskId ∧ task.kind = kind ∧ task.row.entity = some (.instance id) ∧
    db.modelInstances.find? id = some row ∧ row.deployType = "local" ∧
    row.nodeId = some task.nodeId ∧
    ((Stmt.enqueueInstanceTask task id pendingStatus db.clock).exec db).1 = true ∧
    db' = ((Stmt.enqueueInstanceTask task id pendingStatus db.clock).exec db).2

section Enqueued

variable {id pendingStatus taskId : String} {kind : TaskKind} {db db' : Db}

theorem Enqueued.board (h : Enqueued id kind pendingStatus taskId db db') :
    db'.board = db.board.after (.enqueue taskId kind id pendingStatus) := by
  obtain ⟨task, row, rfl, rfl, hentity, -, -, -, hok, rfl⟩ := h
  exact board_enqueueInstanceTask hentity hok

theorem Enqueued.taskNames (h : Enqueued id kind pendingStatus taskId db db') :
    TaskNames db' taskId (some (.instance id)) := by
  obtain ⟨task, row, rfl, rfl, hentity, -, -, -, hok, rfl⟩ := h
  exact ⟨task.row, insertTask_stored (fun _ => rfl) hok, hentity⟩

theorem Enqueued.status (h : Enqueued id kind pendingStatus taskId db db') :
    ∃ status, db.board.status id = some status := by
  obtain ⟨task, row, -, -, -, hrow, hlocal, -, -, -⟩ := h
  exact ⟨row.status, board_status_eq_some.mpr ⟨row, hrow, hlocal, rfl⟩⟩

theorem Enqueued.fresh (h : Enqueued id kind pendingStatus taskId db db') :
    db.agentTasks.find? taskId = none := by
  obtain ⟨task, row, rfl, -, -, -, -, -, hok, -⟩ := h
  refine insertTask_fresh ?_ hok
  exact fun _ => rfl

end Enqueued

/-- The file of a task for an instance: none where the backend is Ollama, else the verified file of the
instance. -/
def TaskFile (db : Db) (row : ModelInstance) (env : RuntimeEnvironment) :
    Option (String × InstanceModelFile) → Prop
  | none => env.backend = "ollama"
  | some (modelFileId, taskFile) =>
      env.backend ≠ "ollama" ∧ row.modelFileId = some modelFileId ∧
        ∃ file, db.modelFiles.find? modelFileId = some file ∧ file.deletedAt = none ∧
          file.status = "verified" ∧ taskFile.nodeId = file.nodeId ∧ taskFile.path = file.path

/-- The payload of a task for a local instance. -/
def instanceTaskPayload (deps : External) (row : ModelInstanceView) (runtimeEnvironmentId : String)
    (env : RuntimeEnvironment) (params : Json) (file : Option (String × InstanceModelFile)) : Json :=
  completePayload (instancePayload deps row runtimeEnvironmentId env params file)
    (env.paramsJson.bind deps.jsonFromStr) row.modelDefinitionName

/-- `task` is the task that is enqueued for an instance, out of what is stored. -/
structure TaskFor (deps : External) (db : Db) (id : String) (kind : TaskKind) (taskId : String)
    (task : NewAgentTask) where
  row : ModelInstance
  runtimeEnvironmentId : String
  env : RuntimeEnvironment
  params : Json
  file : Option (String × InstanceModelFile)
  id_eq : task.id = taskId
  kind_eq : task.kind = kind
  find_row : db.modelInstances.find? id = some row
  isLocal : row.deployType = "local"
  node : row.nodeId = some task.nodeId
  runtime : row.runtimeEnvironmentId = some runtimeEnvironmentId
  find_env : db.runtimeEnvironments.find? runtimeEnvironmentId = some env
  usable : runtimeEnvironmentUsable env.checkStatus = true
  parsed : parseInstanceParams deps row.paramsJson = .ok params
  taskFile : TaskFile db row env file
  payload : task.payloadJson
    = instanceTaskPayload deps (db.instanceView row) runtimeEnvironmentId env params file

theorem TaskFor.entity {deps : External} {db : Db} {id taskId : String} {kind : TaskKind}
    {task : NewAgentTask} (h : TaskFor deps db id kind taskId task) (hkind : kind.isInstanceTask = true) :
    task.row.entity = some (.instance id) := by
  have hid : h.row.id = id := Table.find?_key h.find_row
  have hpayload : task.payloadJson.getStr "instance_id" = some id := by
    rw [h.payload, instanceTaskPayload, getStr_completePayload _ _ _ (by decide) (by decide),
      getStr_instancePayload]
    exact congrArg some hid
  have hkind' := h.kind_eq
  cases kind <;> first
    | exact absurd hkind (by decide)
    | simp [AgentTask.entity, NewAgentTask.row, hpayload, hkind']

theorem serve_query_ok {q : Db → α} {a : α} {db db' : Db} (h : serve (query q) db = (.ok a, db')) :
    a = q db ∧ db' = db :=
  ⟨(Except.ok.inj (congrArg Prod.fst h)).symm, (congrArg Prod.snd h).symm⟩

/-- What a task or an instance is told of a file. -/
def ModelFile.forInstance (file : ModelFile) : InstanceModelFile :=
  { modelId := file.modelId, nodeId := file.nodeId, path := file.path, pathType := file.pathType }

theorem serve_verifiedModelFileForInstance_ok {modelFileId : String} {taskFile : InstanceModelFile}
    {db db' : Db} (h : serve (verifiedModelFileForInstance modelFileId) db = (.ok taskFile, db')) :
    ∃ file, db.modelFiles.find? modelFileId = some file ∧ file.deletedAt = none ∧
      file.status = "verified" ∧ taskFile = file.forInstance := by
  unfold verifiedModelFileForInstance at h
  obtain ⟨found, _, hquery, h⟩ := serve_bind_eq_ok h
  obtain ⟨rfl, rfl⟩ := serve_query_ok hquery
  obtain ⟨file, _, hrequired, h⟩ := serve_bind_eq_ok h
  obtain ⟨_, _, hverified, h⟩ := serve_bind_eq_ok h
  obtain ⟨hfind, hlive⟩ := Option.filter_eq_some_iff.mp (serve_required_ok hrequired)
  have hstatus : file.status = "verified" := by
    have hnot := serve_rejectIf_ok hverified
    exact of_not_not (of_decide_eq_false hnot)
  have hfile : file.forInstance = taskFile := Except.ok.inj (congrArg Prod.fst h)
  exact ⟨file, hfind, Option.isNone_iff_eq_none.mp hlive, hstatus, hfile.symm⟩

theorem serve_instanceTaskFile_ok {row : ModelInstanceView} {env : RuntimeEnvironment}
    {file : Option (String × InstanceModelFile)} {db db' : Db}
    (h : serve (instanceTaskFile row env) db = (.ok file, db')) :
    TaskFile db row.toModelInstance env file := by
  unfold instanceTaskFile at h
  by_cases hollama : env.backend = "ollama"
  · rw [if_pos hollama] at h
    rw [← Except.ok.inj (congrArg Prod.fst h)]
    exact hollama
  · rw [if_neg hollama] at h
    obtain ⟨modelFileId, _, hrequired, h⟩ := serve_bind_eq_ok h
    obtain rfl : db = _ := (serve_of_reads (uses_required _ _) db).symm.trans
      (congrArg Prod.snd hrequired)
    obtain ⟨taskFile, _, hfile, h⟩ := serve_bind_eq_ok h
    have hsome := Except.ok.inj (congrArg Prod.fst h)
    obtain ⟨file, hfind, hlive, hstatus, rfl⟩ := serve_verifiedModelFileForInstance_ok hfile
    rw [← hsome]
    exact ⟨hollama, serve_required_ok hrequired, file, hfind, hlive, hstatus, rfl, rfl⟩

/-- The enqueueing fails and leaves everything as it is, or it enqueues a task for the instance. -/
theorem serve_enqueue_cases (deps : External) (id : String) (kind : TaskKind)
    (pendingStatus taskId : String) (db : Db) :
    (∃ e, serve (enqueueLocalInstanceTask deps id kind pendingStatus taskId) db = (.error e, db)) ∨
    ∃ task, Nonempty (TaskFor deps db id kind taskId task) ∧
      ((Stmt.enqueueInstanceTask task id pendingStatus db.clock).exec db).1 = true ∧
      serve (enqueueLocalInstanceTask deps id kind pendingStatus taskId) db
        = (.ok (), ((Stmt.enqueueInstanceTask task id pendingStatus db.clock).exec db).2) := by
  unfold enqueueLocalInstanceTask
  cases hrow : db.modelInstances.find? id with
  | none => exact .inl ⟨_, serve_bind_error (serve_modelInstance_of_none hrow) _⟩
  | some row =>
  rw [serve_bind_ok (serve_modelInstance_of_some hrow)]
  rcases serve_reads_bind (uses_rejectIf _ _) _ db with ⟨e, h⟩ | ⟨_, hlocal, h⟩
  · exact .inl ⟨e, h⟩
  rw [h]
  rcases serve_reads_bind (uses_required _ _) _ db with ⟨e, h⟩ | ⟨nodeId, hnode, h⟩
  · exact .inl ⟨e, h⟩
  rw [h]
  rcases serve_reads_bind (uses_nodeOnline nodeId) _ db with ⟨e, h⟩ | ⟨online, -, h⟩
  · exact .inl ⟨e, h⟩
  rw [h]
  rcases serve_reads_bind (uses_rejectIf _ _) _ db with ⟨e, h⟩ | ⟨_, -, h⟩
  · exact .inl ⟨e, h⟩
  rw [h]
  rcases serve_reads_bind (uses_required _ _) _ db with ⟨e, h⟩ | ⟨runtimeEnvironmentId, hruntime, h⟩
  · exact .inl ⟨e, h⟩
  rw [h]
  rcases serve_reads_bind (uses_runtimeEnvironment _) _ db with ⟨e, h⟩ | ⟨env, henv, h⟩
  · exact .inl ⟨e, h⟩
  rw [h]
  rcases serve_reads_bind (uses_rejectIf _ _) _ db with ⟨e, h⟩ | ⟨_, husable, h⟩
  · exact .inl ⟨e, h⟩
  rw [h]
  rcases serve_reads_bind (uses_checked _) _ db with ⟨e, h⟩ | ⟨params, hparams, h⟩
  · exact .inl ⟨e, h⟩
  rw [h, serve_bind_ok (serve_nowUnixSecs db)]
  rcases serve_reads_bind (uses_instanceTaskFile _ env) _ db with ⟨e, h⟩ | ⟨file, hfile, h⟩
  · exact .inl ⟨e, h⟩
  rw [h]
  let task : NewAgentTask :=
    { id := taskId
      nodeId
      kind
      payloadJson :=
        instanceTaskPayload deps (db.instanceView row) runtimeEnvironmentId env params file
      now := db.clock }
  have hdeploy : row.deployType = "local" := by
    have hnot := serve_rejectIf_ok hlocal
    exact of_not_not (of_decide_eq_false hnot)
  have hfind : db.runtimeEnvironments.find? runtimeEnvironmentId = some env := by
    unfold runtimeEnvironment at henv
    rw [serve_bind_ok (serve_query _ db)] at henv
    exact serve_required_ok henv
  have hchecked : runtimeEnvironmentUsable env.checkStatus = true := by
    simpa using serve_rejectIf_ok husable
  have hfor : TaskFor deps db id kind taskId task :=
    { row, runtimeEnvironmentId, env, params, file
      id_eq := rfl
      kind_eq := rfl
      find_row := hrow
      isLocal := hdeploy
      node := serve_required_ok hnode
      runtime := serve_required_ok hruntime
      find_env := hfind
      usable := hchecked
      parsed := serve_checked_eq_ok hparams
      taskFile := serve_instanceTaskFile_ok hfile
      payload := rfl }
  have hserve := serve_execute (.enqueueInstanceTask task id pendingStatus db.clock) db
  cases hanswer : ((Stmt.enqueueInstanceTask task id pendingStatus db.clock).exec db).1 with
  | false =>
      have hsame : ((Stmt.enqueueInstanceTask task id pendingStatus db.clock).exec db).2 = db :=
        insertTask_refused hanswer
      rw [hanswer, hsame] at hserve
      exact .inl ⟨_, (serve_bind_ok hserve _).trans rfl⟩
  | true =>
      rw [hanswer] at hserve
      exact .inr ⟨task, ⟨hfor⟩, hanswer, (serve_bind_ok hserve _).trans rfl⟩

theorem serve_enqueueLocalInstanceTask (deps : External) (id : String) {kind : TaskKind}
    (hkind : kind.isInstanceTask = true) (pendingStatus taskId : String) (db : Db) :
    (∃ e, serve (enqueueLocalInstanceTask deps id kind pendingStatus taskId) db = (.error e, db)) ∨
    ∃ db', Enqueued id kind pendingStatus taskId db db' ∧
      serve (enqueueLocalInstanceTask deps id kind pendingStatus taskId) db = (.ok (), db') := by
  rcases serve_enqueue_cases deps id kind pendingStatus taskId db with
    hfails | ⟨task, ⟨hfor⟩, hanswer, hserve⟩
  · exact .inl hfails
  · exact .inr ⟨_, ⟨task, hfor.row, hfor.id_eq, hfor.kind_eq, hfor.entity hkind, hfor.find_row,
      hfor.isLocal, hfor.node, hanswer, rfl⟩, hserve⟩

/-! ### Timeouts -/

/-- What the timeout of a task changes. -/
def timeoutChange (task : AgentTask) : Change := .ending task.id (task.writes "failed")

/-- The task names an instance that does not exist, at which the sweep ends with an error. -/
def Db.stopsSweep (db : Db) (task : AgentTask) : Bool :=
  match task.entity with
  | some (.instance instanceId) => (db.modelInstances.find? instanceId).isNone
  | _ => false

/-- The tasks that a sweep over `tasks` times out before it ends. -/
def Db.sweptFrom (db : Db) : List AgentTask → List AgentTask
  | [] => []
  | task :: tasks => if db.stopsSweep task then [task] else task :: db.sweptFrom tasks

def Db.swept (db : Db) : List AgentTask :=
  db.sweptFrom (db.agentTasks.rows.filter (·.expired db.clock))

def sweepChanges (db : Db) : List Change := db.swept.map timeoutChange

/-- The instances that exist are the same, whatever else is written. -/
def SameInstances (db db' : Db) : Prop :=
  ∀ id, (db'.modelInstances.find? id).isNone = (db.modelInstances.find? id).isNone

theorem sweptFrom_congr {db db' : Db} (h : SameInstances db db') (tasks : List AgentTask) :
    db'.sweptFrom tasks = db.sweptFrom tasks := by
  have hstops : ∀ task, db'.stopsSweep task = db.stopsSweep task := by
    intro task
    unfold Db.stopsSweep
    split
    · exact h _
    · rfl
  induction tasks with
  | nil => rfl
  | cons task tasks ih => simp only [Db.sweptFrom, hstops, ih]

theorem sameInstances_updateInstanceCheck (id status : String) (error : Option String) (now : Int)
    (db : Db) : SameInstances db ((Stmt.updateInstanceCheck id status error now).exec db).2 := by
  intro id'
  have hfind := Table.find?_update db.modelInstances id (·.check status error now) (fun _ => rfl) id'
  refine (congrArg Option.isNone hfind).trans ?_
  by_cases hid : id' = id
  · rw [if_pos hid, Option.isNone_map]
  · rw [if_neg hid]

theorem serve_updateInstanceCheck (id status : String) (error : Option String) (db : Db) :
    (serve (updateInstanceCheck id status error) db).2
        = ((Stmt.updateInstanceCheck id status error db.clock).exec db).2 ∧
      ((∃ e, (serve (updateInstanceCheck id status error) db).1 = .error e) ↔
        db.modelInstances.find? id = none) := by
  have hserve : serve (updateInstanceCheck id status error) db
      = serve (modelInstance id) ((Stmt.updateInstanceCheck id status error db.clock).exec db).2 := by
    unfold updateInstanceCheck
    rw [serve_bind_ok (serve_nowUnixSecs db)]
    exact serve_bind_ok (serve_execute (.updateInstanceCheck id status error db.clock) db) _
  have hsame := sameInstances_updateInstanceCheck id status error db.clock db id
  rw [hserve]
  refine ⟨serve_of_reads (uses_modelInstance id) _, ?_⟩
  cases hrow : ((Stmt.updateInstanceCheck id status error db.clock).exec db).2.modelInstances.find? id
  · rw [hrow] at hsame
    rw [serve_modelInstance_of_none hrow]
    constructor
    · intro _
      exact Option.isNone_iff_eq_none.mp hsame.symm
    · intro _
      exact ⟨_, rfl⟩
  · rename_i row
    rw [hrow] at hsame
    rw [serve_modelInstance_of_some hrow]
    constructor
    · rintro ⟨e, h⟩
      exact nomatch h
    · intro hnone
      rw [hnone] at hsame
      exact nomatch hsame

theorem serve_discard {α : Type} (h : Handler α) (db : Db) :
    serve (do let _ ← h; pure () : Handler Unit) db
      = ((serve h db).1.map fun _ => (), (serve h db).2) := by
  cases hserve : serve h db with
  | mk outcome db' =>
      cases outcome with
      | error e => exact serve_bind_error hserve _
      | ok a => exact serve_bind_ok hserve _

/-- The timeout of one task: what it changes besides the task, and whether the sweep goes on. -/
theorem serve_applyTimeout (task : AgentTask) (now : Int) (db : Db) :
    (serve (applyTimeout task now) db).2.board = (match task.entity with
        | some (.instance instanceId) => db.board.setStatus instanceId "failed"
        | _ => db.board) ∧
      SameInstances db (serve (applyTimeout task now) db).2 ∧
      ((∃ e, (serve (applyTimeout task now) db).1 = .error e) ↔ db.stopsSweep task = true) := by
  have hother : ∀ {h : Handler Unit} {db' : Db}, serve h db = (.ok (), db') →
      db'.board = db.board → db'.modelInstances = db.modelInstances →
      (serve h db).2.board = db.board ∧ SameInstances db (serve h db).2 ∧
        ((∃ e, (serve h db).1 = .error e) ↔ false = true) := by
    intro h db' hserve hboard hinstances
    rw [hserve]
    refine ⟨hboard, fun id => by rw [hinstances], ?_⟩
    constructor
    · rintro ⟨e, h⟩
      exact nomatch h
    · intro h
      exact nomatch h
  have hinstance : ∀ instanceId,
      let h : Handler Unit := do
        let _ ← updateInstanceCheck instanceId "failed" (some "Local instance task timed out")
        pure ()
      (serve h db).2.board = db.board.setStatus instanceId "failed" ∧
        SameInstances db (serve h db).2 ∧
        ((∃ e, (serve h db).1 = .error e) ↔ (db.modelInstances.find? instanceId).isNone = true) := by
    intro instanceId
    obtain ⟨hdb, herror⟩ := serve_updateInstanceCheck instanceId "failed"
      (some "Local instance task timed out") db
    dsimp only
    rw [serve_discard, hdb]
    refine ⟨board_updateInstanceCheck .., sameInstances_updateInstanceCheck _ _ _ _ db, ?_⟩
    rw [Option.isNone_iff_eq_none, ← herror]
    cases (serve (updateInstanceCheck instanceId "failed"
      (some "Local instance task timed out")) db).1 <;> simp [Except.map]
  unfold AgentTask.entity applyTimeout Db.stopsSweep AgentTask.entity
  cases task.kind
  case verifyModelFile =>
    cases task.payloadJson.getStr "model_file_id" with
    | none => exact hother rfl rfl rfl
    | some fileId => exact hother rfl rfl rfl
  case cleanupModelFile =>
    cases task.payloadJson.getStr "trash_id" with
    | none => exact hother rfl rfl rfl
    | some trashId => exact hother rfl rfl rfl
  all_goals first
    | exact hother rfl rfl rfl
    | (cases task.payloadJson.getStr "instance_id" with
       | none => exact hother rfl rfl rfl
       | some instanceId => exact hinstance instanceId)

theorem SameInstances.trans {db db' db'' : Db} (h : SameInstances db db')
    (h' : SameInstances db' db'') : SameInstances db db'' :=
  fun id => (h' id).trans (h id)

theorem serve_timeOutTasks (now : Int) (tasks : List AgentTask) (db : Db) :
    (serve (timeOutTasks now tasks) db).2.board
        = db.board.afterAll ((db.sweptFrom tasks).map timeoutChange) ∧
      SameInstances db (serve (timeOutTasks now tasks) db).2 := by
  induction tasks generalizing db with
  | nil => exact ⟨rfl, fun _ => rfl⟩
  | cons task tasks ih =>
      have hmark : serve (markTaskTimedOut task.id) db
          = (.ok (), ((Stmt.markTaskTimedOut task.id db.clock).exec db).2) := rfl
      have hmarked : SameInstances db ((Stmt.markTaskTimedOut task.id db.clock).exec db).2 :=
        fun _ => rfl
      unfold timeOutTasks
      rw [serve_bind_ok hmark]
      obtain ⟨hboard, hsame, hstops⟩ := serve_applyTimeout task now
        ((Stmt.markTaskTimedOut task.id db.clock).exec db).2
      have hstopsSweep : (∃ e, (serve (applyTimeout task now)
          ((Stmt.markTaskTimedOut task.id db.clock).exec db).2).1 = .error e) ↔
            db.stopsSweep task = true := hstops
      have hchanges : (serve (applyTimeout task now)
          ((Stmt.markTaskTimedOut task.id db.clock).exec db).2).2.board
            = db.board.after (timeoutChange task) := by
        rw [hboard, board_markTaskTimedOut]
        unfold timeoutChange AgentTask.writes
        cases task.entity with
        | none => rfl
        | some entity => cases entity <;> rfl
      cases hserve : serve (applyTimeout task now)
          ((Stmt.markTaskTimedOut task.id db.clock).exec db).2 with
      | mk outcome db' =>
          rw [hserve] at hsame hstopsSweep hchanges
          cases outcome with
          | error e =>
              have hstop : db.stopsSweep task = true := hstopsSweep.mp ⟨e, rfl⟩
              rw [serve_bind_error hserve, Db.sweptFrom, if_pos hstop]
              exact ⟨hchanges, hmarked.trans hsame⟩
          | ok u =>
              have hgo : ¬ db.stopsSweep task = true := by
                intro hstop
                obtain ⟨e, h⟩ := hstopsSweep.mpr hstop
                exact nomatch h
              obtain ⟨hrest, hrestSame⟩ := ih db'
              rw [serve_bind_ok hserve, Db.sweptFrom, if_neg hgo, List.map_cons,
                Board.afterAll_cons, ← hchanges, ← sweptFrom_congr (hmarked.trans hsame)]
              exact ⟨hrest, (hmarked.trans hsame).trans hrestSame⟩

theorem serve_markTimedOutTasks (db : Db) :
    (serve markTimedOutTasks db).2.board = db.board.afterAll (sweepChanges db) :=
  (serve_timeOutTasks db.clock (db.agentTasks.rows.filter (·.expired db.clock)) db).1

/-! ### The requests of an agent -/

/-- Dispatching a queued task leaves it in flight. -/
theorem board_dispatchAgentTask (nodeId : String) {row : AgentTask} {db : Db}
    (hstored : db.agentTasks.find? row.id = some row) (hqueued : row.status = .queued) :
    (serve (dispatchAgentTask nodeId row) db).2.board = db.board := by
  have hclaim : ∀ now leaseUntil, ((Stmt.claimAgentTask row now leaseUntil).exec db).2.board
      = db.board := by
    intro now leaseUntil
    apply board_claimAgentTask
    intro task htask
    rw [hstored] at htask
    rw [← Option.some.inj htask, hqueued]
    rfl
  have huses : Uses [.setFileVerifying, .setTrashCleanupRunning] (do
      markDispatched row db.clock
      let stored ← query fun db => db.agentTasks.find? row.id
      let stored ← required rowNotFound stored
      let agentConfig ← effectiveAgentConfig nodeId
      pure { task := some (agentTaskFromRow stored), agentConfig : AgentTaskPollResponse }) := by
    apply uses_bind (uses_markDispatched (by decide) (by decide) row db.clock)
    intro _
    apply uses_bind (uses_query _)
    intro stored
    apply uses_bind (uses_required _ stored)
    intro stored
    exact uses_bind (uses_effectiveAgentConfig nodeId) fun _ => uses_pure _
  exact (huses.board_eq (by decide) _).trans (hclaim db.clock (db.clock + agentTaskLeaseSecs))

/-- A poll that does not wait ends its loop in the database that its sweep leaves. -/
theorem serve_pollLoop (nodeId : String) (version : Option Int) (db : Db) :
    (∃ e, serve (pollLoop nodeId version []) db = (.error e, (serve markTimedOutTasks db).2)) ∨
    (∃ config, serve (pollLoop nodeId version []) db
      = (.ok (.inr config), (serve markTimedOutTasks db).2)) ∨
    ∃ row, serve (pollLoop nodeId version []) db = (.ok (.inl row), (serve markTimedOutTasks db).2) ∧
      (serve markTimedOutTasks db).2.agentTasks.find? row.id = some row ∧ row.status = .queued := by
  cases hsweep : serve markTimedOutTasks db with
  | mk outcome db' =>
      unfold pollLoop
      cases outcome with
      | error e => exact .inl ⟨e, serve_bind_error hsweep _⟩
      | ok u =>
          rw [serve_bind_ok hsweep]
          have hnext : serve (nextQueuedAgentTask nodeId) db' = (.ok
              ((db'.agentTasks.rows.filter fun task =>
                task.nodeId = nodeId && task.status = .queued).argmin (·.createdAt)), db') := rfl
          rw [serve_bind_ok hnext]
          split
          · rename_i row hrow
            obtain ⟨hmem, -, hqueued⟩ := nextQueued_spec hrow
            exact .inr (.inr ⟨row, rfl, Table.find?_of_mem hmem, hqueued⟩)
          · rcases serve_reads_bind (uses_effectiveAgentConfig nodeId)
              (fun config => (pure (.inr config) : Handler (AgentTask ⊕ AgentConfig))) db' with
              ⟨e, h⟩ | ⟨config, -, h⟩
            · exact .inl ⟨e, h⟩
            · exact .inr (.inl ⟨config, h⟩)

theorem board_pollAgentTask (nodeId : String) (version : Option Int) (db : Db) :
    (serve (pollAgentTask nodeId version []) db).2.board = db.board.afterAll (sweepChanges db) := by
  rw [← serve_markTimedOutTasks]
  unfold pollAgentTask
  rcases serve_pollLoop nodeId version db with ⟨e, h⟩ | ⟨config, h⟩ | ⟨row, h, hstored, hqueued⟩
  · rw [serve_bind_error h]
  · rw [serve_bind_ok h]
    rfl
  · rw [serve_bind_ok h]
    exact board_dispatchAgentTask nodeId hstored hqueued

/-- The task that a result is recorded for, with the status that it reports. -/
def recordedResult (db : Db) (taskId : String) (request : AgentTaskResultRequest) :
    Option (AgentTask × ResultStatus) :=
  match (db.agentTasks.find? taskId).filter fun task => task.nodeId = request.nodeId,
    resultStatus request.status with
  | some task, some status => some (task, status)
  | _, _ => none

def recordChanges (db : Db) (taskId : String) (request : AgentTaskResultRequest) : List Change :=
  match recordedResult db taskId request with
  | some (task, status) => resultChanges task status request.result
  | none => []

theorem recordedResult_task {db : Db} {taskId : String} {request : AgentTaskResultRequest}
    {task : AgentTask} {status : ResultStatus}
    (h : recordedResult db taskId request = some (task, status)) :
    db.agentTasks.find? taskId = some task := by
  unfold recordedResult at h
  split at h
  · rename_i found _ hfound _
    obtain ⟨rfl, -⟩ := Prod.mk.inj (Option.some.inj h)
    exact Option.eq_some_of_filter_eq_some hfound
  · cases h

theorem serve_recordAgentTaskResult (taskId : String) (request : AgentTaskResultRequest) (db : Db) :
    (serve (recordAgentTaskResult taskId request) db).2
      = match recordedResult db taskId request with
        | some (task, status) => ((Stmt.recordResult task status request.result db.clock).exec db).2
        | none => db := by
  unfold recordAgentTaskResult recordedResult
  rw [serve_bind_ok (serve_query _ db)]
  cases htask : (db.agentTasks.find? taskId).filter fun task => task.nodeId = request.nodeId with
  | none =>
      rw [serve_bind_error (serve_required_none _ db)]
  | some task =>
      rw [serve_bind_ok (serve_required_some _ task db)]
      cases hstatus : resultStatus request.status with
      | none =>
          rw [serve_bind_error (serve_required_none _ db)]
      | some status =>
          rw [serve_bind_ok (serve_required_some _ status db),
            serve_bind_ok (serve_nowUnixSecs db)]
          have hserve := serve_execute (.recordResult task status request.result db.clock) db
          have hrest : ∀ outcome : Except DomainError Bool,
              Uses [] (do let _ ← checked outcome; pure ()) :=
            fun outcome => uses_bind (uses_checked outcome) fun _ => uses_pure ()
          exact (congrArg Prod.snd (serve_bind_ok hserve _)).trans (serve_of_reads (hrest _) _)

theorem board_recordAgentTaskResult (taskId : String) (request : AgentTaskResultRequest) (db : Db) :
    (serve (recordAgentTaskResult taskId request) db).2.board
      = db.board.afterAll (recordChanges db taskId request) := by
  rw [serve_recordAgentTaskResult]
  unfold recordChanges
  cases recordedResult db taskId request with
  | none => rfl
  | some recorded => exact board_recordResult db recorded.1 recorded.2 request.result db.clock

theorem board_recordHeartbeat_served (request : HeartbeatRequest) (db : Db) :
    (serve (recordHeartbeat request) db).2.board = db.board.afterAll (heartbeatChanges db request) := by
  have hserve := serve_execute (.recordHeartbeat request db.clock) db
  have hrest : ∀ outcome : Except DomainError Bool,
      Uses [] (do let _ ← checked outcome; pure ()) :=
    fun outcome => uses_bind (uses_checked outcome) fun _ => uses_pure ()
  unfold recordHeartbeat
  rw [serve_bind_ok (serve_nowUnixSecs db), ← board_recordHeartbeat request db.clock db]
  refine congrArg Db.board ?_
  exact (congrArg Prod.snd (serve_bind_ok hserve _)).trans (serve_of_reads (hrest _) _)

/-! ### The requests of users -/

/-- What the deadline of a request that waits for a task changes. -/
def deadlineChanges (db : Db) (id taskId : String) : List Change :=
  if db.liveTask taskId then [.ending taskId (some (id, "failed"))] else []

theorem board_deadline (id taskId : String) (db : Db) :
    (serve (waitForModelInstanceTask id taskId 0) db).2.board
      = db.board.afterAll (deadlineChanges db id taskId) := by
  unfold waitForModelInstanceTask waitForTask deadlineChanges Db.liveTask
  rw [serve_bind_ok (serve_query _ db)]
  cases htask : db.agentTasks.find? taskId with
  | none =>
      rw [serve_bind_error (serve_required_none _ db)]
      rfl
  | some task =>
      rw [serve_bind_ok (serve_required_some _ task db)]
      have hended : ∀ outcome, instanceTaskEnded id task = some outcome →
          task.status.isLive = false ∧ Uses [] outcome := by
        intro outcome hended
        unfold instanceTaskEnded at hended
        cases hstatus : task.status <;> rw [hstatus] at hended
        case succeeded =>
          obtain rfl := Option.some.inj hended
          exact ⟨rfl, uses_modelInstance id⟩
        case failed =>
          obtain rfl := Option.some.inj hended
          exact ⟨rfl, uses_throw _⟩
        case timedOut =>
          obtain rfl := Option.some.inj hended
          exact ⟨rfl, uses_throw _⟩
        all_goals exact nomatch hended
      cases houtcome : instanceTaskEnded id task with
      | some outcome =>
          obtain ⟨hterminal, hreads⟩ := hended outcome houtcome
          simp only [Option.any_some, hterminal]
          rw [serve_of_reads hreads]
          rfl
      | none =>
          have hlive : task.status.isLive = true := by
            unfold instanceTaskEnded at houtcome
            cases hstatus : task.status <;> rw [hstatus] at houtcome
            case queued => rfl
            case running => rfl
            all_goals exact nomatch houtcome
          simp only [Option.any_some, hlive, if_true]
          have hmark : serve (markTaskTimedOut taskId) db
              = (.ok (), ((Stmt.markTaskTimedOut taskId db.clock).exec db).2) := rfl
          have hboard := board_markTaskTimedOut db taskId db.clock
          unfold instanceTaskDeadline
          rw [serve_bind_ok hmark]
          obtain ⟨hcheck, -⟩ := serve_updateInstanceCheck id "failed"
            (some "local instance task timed out") ((Stmt.markTaskTimedOut taskId db.clock).exec db).2
          have hrest : ∀ db', (serve (do
              let _ ← updateInstanceCheck id "failed" (some "local instance task timed out")
              throw instanceTaskTimedOut : Handler ModelInstanceView) db').2
                = (serve (updateInstanceCheck id "failed"
                  (some "local instance task timed out")) db').2 := by
            intro db'
            rw [serve_bind]
            split
            · rename_i hserve
              rw [hserve]
              rfl
            · rename_i hserve
              rw [hserve]
          rw [hrest, hcheck, board_updateInstanceCheck, hboard]
          rfl

theorem setStatus_self {b : Board} {id status : String} (h : b.status id = some status) :
    b.setStatus id status = b := by
  have hsame : Function.update b.status id ((b.status id).map fun _ => status) = b.status := by
    rw [h, Option.map_some, ← h]
    exact Function.update_eq_self id b.status
  unfold Board.setStatus
  rw [hsame]

theorem setStatus_of_none {b : Board} {id : String} (h : b.status id = none) (status : String) :
    b.setStatus id status = b := by
  have hsame : Function.update b.status id ((b.status id).map fun _ => status) = b.status := by
    rw [h, Option.map_none, ← h]
    exact Function.update_eq_self id b.status
  unfold Board.setStatus
  rw [hsame]

theorem serve_checked (id status : String) (error : Option String) (db : Db) :
    let h : Handler (Option ModelInstanceView) := do
      let view ← updateInstanceCheck id status error
      pure (some view)
    (serve h db).1 ≠ .ok none ∧ (serve h db).2.board = db.board.setStatus id status := by
  obtain ⟨hdb, -⟩ := serve_updateInstanceCheck id status error db
  have hboard := board_updateInstanceCheck db id status error db.clock
  rw [← hdb] at hboard
  dsimp only
  cases hserve : serve (updateInstanceCheck id status error) db with
  | mk outcome db' =>
      rw [hserve] at hboard
      cases outcome with
      | error e =>
          rw [serve_bind_error hserve]
          exact ⟨nofun, hboard⟩
      | ok view =>
          rw [serve_bind_ok hserve]
          exact ⟨nofun, hboard⟩

/-- An enqueueing handler of a check or a test: it has enqueued its task, or the board is as before. -/
theorem serve_enqueue_then (deps : External) (id : String) {kind : TaskKind}
    (hkind : kind.isInstanceTask = true) (taskId : String) (db : Db) :
    let h : Handler (Option ModelInstanceView) := do
      enqueueLocalInstanceTask deps id kind "running" taskId
      pure none
    (∃ db', Enqueued id kind "running" taskId db db' ∧ serve h db = (.ok none, db')) ∨
      ((serve h db).1 ≠ .ok none ∧ (serve h db).2.board = db.board) := by
  rcases serve_enqueueLocalInstanceTask deps id hkind "running" taskId db with
    ⟨e, h⟩ | ⟨db', henqueued, h⟩
  · right
    rw [serve_bind_error h]
    exact ⟨nofun, rfl⟩
  · exact .inl ⟨db', henqueued, serve_bind_ok h _⟩

theorem serve_beginCheck (deps : External) (id taskId : String) (http : HttpOutcome) (db : Db) :
    (∃ db', Enqueued id .checkModelInstance "running" taskId db db' ∧
      serve (beginCheck deps id taskId http) db = (.ok none, db')) ∨
    ((serve (beginCheck deps id taskId http) db).1 ≠ .ok none ∧
      (serve (beginCheck deps id taskId http) db).2.board = db.board) := by
  unfold beginCheck
  cases hrow : db.modelInstances.find? id with
  | none =>
      right
      rw [serve_bind_error (serve_modelInstance_of_none hrow)]
      exact ⟨fun h => (by cases h), rfl⟩
  | some row =>
  rw [serve_bind_ok (serve_modelInstance_of_some hrow)]
  have hstatus : db.board.status id = row.localStatus := by simp [Db.board, hrow]
  by_cases hexternal : (db.instanceView row).deployType ≠ "external"
  · rw [if_pos hexternal]
    split
    · exact .inr ⟨fun h => (by cases h), rfl⟩
    rcases serve_reads_bind (uses_required _ _) _ db with ⟨e, h⟩ | ⟨nodeId, -, h⟩
    · rw [h]
      exact .inr ⟨fun h => (by cases h), rfl⟩
    rw [h]
    rcases serve_reads_bind (uses_nodeOnline nodeId) _ db with ⟨e, h⟩ | ⟨online, -, h⟩
    · rw [h]
      exact .inr ⟨fun h => (by cases h), rfl⟩
    rw [h]
    split
    · exact serve_enqueue_then deps id rfl taskId db
    · obtain ⟨houtcome, hboard⟩ := serve_checked id (db.instanceView row).status
        (some "Agent offline, cannot check instance status") db
      refine .inr ⟨houtcome, hboard.trans ?_⟩
      by_cases hlocal : row.deployType = "local"
      · apply setStatus_self
        rw [hstatus]
        exact if_pos hlocal
      · apply setStatus_of_none
        rw [hstatus]
        exact if_neg hlocal
  · rw [if_neg hexternal]
    have hnone : db.board.status id = none := by
      have hdeploy : row.deployType = "external" := of_not_not hexternal
      rw [hstatus]
      simp [ModelInstance.localStatus, hdeploy]
    unfold checkExternalInstance
    split
    · obtain ⟨houtcome, hboard⟩ := serve_checked id "unknown" (some "no check URL configured") db
      exact .inr ⟨houtcome, hboard.trans (setStatus_of_none hnone _)⟩
    · obtain ⟨houtcome, hboard⟩ := serve_checked id (checkUrl http).status _ db
      exact .inr ⟨houtcome, hboard.trans (setStatus_of_none hnone _)⟩

theorem serve_beginTest (deps : External) (id taskId : String) (http : HttpOutcome) (db : Db) :
    (∃ db', Enqueued id .testModelInstance "running" taskId db db' ∧
      serve (beginTest deps id taskId http) db = (.ok none, db')) ∨
    ((serve (beginTest deps id taskId http) db).1 ≠ .ok none ∧
      (serve (beginTest deps id taskId http) db).2.board = db.board) := by
  unfold beginTest
  cases hrow : db.modelInstances.find? id with
  | none =>
      right
      rw [serve_bind_error (serve_modelInstance_of_none hrow)]
      exact ⟨nofun, rfl⟩
  | some row =>
  rw [serve_bind_ok (serve_modelInstance_of_some hrow)]
  split
  · rename_i hexternal
    rcases serve_beginCheck deps id taskId http db with ⟨db', henqueued, -⟩ | h
    · obtain ⟨task, row', -, -, -, hrow', hlocal, -⟩ := henqueued
      rw [hrow] at hrow'
      obtain rfl := Option.some.inj hrow'
      exact absurd (hlocal.symm.trans hexternal) (by decide)
    · exact .inr h
  split
  · exact .inr ⟨nofun, rfl⟩
  have hkind : TaskKind.testModelInstance.isInstanceTask = true := rfl
  rcases serve_enqueue_then deps id hkind taskId db with ⟨db', henqueued, h⟩ | h
  · exact .inl ⟨db', henqueued, h⟩
  · exact .inr h

/-! ### The guards on a busy instance -/

theorem serve_deleteModelInstance_of_busy {db : Db} {id : String} {row : ModelInstance}
    (hrow : db.modelInstances.find? id = some row) (hbusy : busyStatus row.status = true) :
    serve (deleteModelInstance id) db
      = (.error (.conflict "Cannot delete a running instance. Stop it first."), db) := by
  unfold deleteModelInstance
  rw [serve_bind_ok (serve_modelInstance_of_some hrow), instanceView_toModelInstance, if_pos hbusy]
  rfl

theorem serve_deleteModelInstance_of_idle {db : Db} {id : String} {row : ModelInstance}
    (hrow : db.modelInstances.find? id = some row) (hidle : busyStatus row.status = false) :
    serve (deleteModelInstance id) db
      = (.ok (), ((Stmt.deleteModelInstance id).exec db).2) := by
  have hfound : ((Stmt.deleteModelInstance id).exec db).1 = true := by
    change (db.modelInstances.find? id).isSome = true
    rw [hrow]
    rfl
  have hserve := serve_execute (.deleteModelInstance id) db
  rw [hfound] at hserve
  unfold deleteModelInstance
  rw [serve_bind_ok (serve_modelInstance_of_some hrow), instanceView_toModelInstance,
    if_neg (Bool.eq_false_iff.mp hidle)]
  exact (serve_bind_ok hserve _).trans rfl

theorem serve_updateModelInstance_of_busy (deps : External) {db : Db} {id : String}
    {row : ModelInstance} (hrow : db.modelInstances.find? id = some row)
    (hbusy : busyStatus row.status = true) {request : ModelInstanceUpdateRequest}
    (hchange : request.isConfigChange = true) :
    serve (updateModelInstance deps id request) db
      = (.error (.conflict "Cannot modify a running instance. Stop it first."), db) := by
  unfold updateModelInstance
  have hrefused : (busyStatus row.status && request.isConfigChange) = true := by
    rw [hbusy, hchange]
    rfl
  rw [serve_bind_ok (serve_modelInstance_of_some hrow), instanceView_toModelInstance,
    if_pos hrefused]
  rfl

/-- An update never changes the status of a local instance. -/
theorem board_updateModelInstance (deps : External) (id : String)
    (request : ModelInstanceUpdateRequest) (db : Db) :
    (serve (updateModelInstance deps id request) db).2.board = db.board := by
  unfold updateModelInstance
  cases hrow : db.modelInstances.find? id with
  | none => rw [serve_bind_error (serve_modelInstance_of_none hrow)]
  | some row =>
  rw [serve_bind_ok (serve_modelInstance_of_some hrow)]
  split
  · rfl
  split
  · have huses : Uses [.updateLocalInstance]
        (updateLocalModelInstance deps id request (db.instanceView row)) := by
      apply uses_bind (uses_checked _)
      intro _
      apply uses_bind (uses_checked _)
      intro _
      apply uses_bind uses_nowUnixSecs
      intro now
      exact uses_bind (uses_execute rfl List.mem_cons_self) fun _ => uses_modelInstance id
    exact huses.board_eq (by decide) db
  · rename_i hexternal
    have hexec : ∀ update now,
        ((Stmt.updateExternalInstance id update now).exec db).2.board = db.board := by
      intro update now
      apply board_update_instance_of_same
      intro stored hstored
      rw [hrow] at hstored
      obtain rfl := Option.some.inj hstored
      have hdeploy : row.deployType ≠ "local" := hexternal
      have hdeploy' : (row.updateExternal update now).deployType ≠ "local" := hexternal
      simp only [ModelInstance.localStatus, if_neg hdeploy, if_neg hdeploy']
    have hread : ∀ update now,
        (serve (modelInstance id) ((Stmt.updateExternalInstance id update now).exec db).2).2.board
          = db.board := by
      intro update now
      rw [serve_of_reads (uses_modelInstance id), hexec]
    unfold updateExternalModelInstance
    rcases serve_reads_bind (uses_checked _) _ db with ⟨e, h⟩ | ⟨_, -, h⟩
    · rw [h]
    rw [h]
    rcases serve_reads_bind (uses_checked _) _ db with ⟨e, h⟩ | ⟨_, -, h⟩
    · rw [h]
    rw [h]
    rcases serve_reads_bind (uses_checked _) _ db with ⟨e, h⟩ | ⟨_, -, h⟩
    · rw [h]
    rw [h]
    rcases serve_reads_bind (uses_checked _) _ db with ⟨e, h⟩ | ⟨_, -, h⟩
    · rw [h]
    rw [h]
    rcases serve_reads_bind (uses_checked _) _ db with ⟨e, h⟩ | ⟨_, -, h⟩
    · rw [h]
    rw [h]
    rcases serve_reads_bind (uses_checked _) _ db with ⟨e, h⟩ | ⟨_, -, h⟩
    · rw [h]
    rw [h]
    rcases serve_reads_bind (uses_checked _) _ db with ⟨e, h⟩ | ⟨_, -, h⟩
    · rw [h]
    rw [h, serve_bind_ok (serve_nowUnixSecs db)]
    exact hread _ db.clock

theorem board_updateRuntimeEnvironment (deps : External) (id : String)
    (request : RuntimeEnvironmentRequest) (db : Db) :
    (serve (updateRuntimeEnvironment deps id request) db).2.board = db.board := by
  have huses : Uses [.updateRuntime, .updateRuntimeCheck] (updateRuntimeEnvironment deps id request) :=
    uses_updateRuntimeEnvironment (by decide) (by decide) deps id request
  exact huses.board_eq (by decide) db

/-- A well-formed update of a runtime environment that a busy instance uses is refused. -/
theorem serve_updateRuntimeEnvironment_of_busy (deps : External) {db : Db} {id : String}
    {row : ModelInstance} (hrow : row ∈ db.modelInstances.rows)
    (hruntime : row.runtimeEnvironmentId = some id) (hbusy : busyStatus row.status = true)
    {request : RuntimeEnvironmentRequest} (hvalid : validateRuntimeRequest deps request = .ok ()) :
    ∃ names, serve (updateRuntimeEnvironment deps id request) db
      = (.error (runtimeInUse names), db) := by
  unfold updateRuntimeEnvironment
  rw [hvalid, serve_bind_ok (serve_checked_ok () db), serve_bind_ok (serve_query _ db)]
  have hmem : row.name ∈ (db.modelInstances.rows.filter fun row =>
      row.runtimeEnvironmentId = some id && busyStatus row.status).map (·.name) := by
    apply List.mem_map_of_mem
    rw [List.mem_filter]
    exact ⟨hrow, by simp [hruntime, hbusy]⟩
  have hne : decide ((db.modelInstances.rows.filter fun row =>
      row.runtimeEnvironmentId = some id && busyStatus row.status).map (·.name) ≠ []) = true :=
    decide_eq_true (List.ne_nil_of_mem hmem)
  rw [hne]
  exact ⟨_, serve_bind_error (serve_rejectIf_true _ db) _⟩

end LightAI.Server
