import LightAI.Server.Platform

/-!
# Is a usable runtime environment checked as it is?

The check of a runtime environment writes its outcome into the row when it ends well, and leaves the row
as it is when it fails or comes to its deadline; an update changes what was checked and carries the
outcome over. `RuntimeChecks` is an auxiliary variable: of each environment, the agent check of it that
ended last.
-/

namespace LightAI.Server

/-- What the check of a runtime environment is about. -/
structure RuntimeEntry where
  backend : Option String
  deployType : Option String
  binaryPath : Option String
  dockerImage : Option String
  nodeId : Option String
  deriving DecidableEq

def RuntimeEnvironment.entry (row : RuntimeEnvironment) : RuntimeEntry :=
  { backend := some row.backend
    deployType := some row.deployType
    binaryPath := row.binaryPath
    dockerImage := row.dockerImage
    nodeId := row.nodeId }

def RuntimeEnvironmentRequest.entry (request : RuntimeEnvironmentRequest) (nodeId : Option String) :
    RuntimeEntry :=
  { backend := some request.backend
    deployType := some request.deployType
    binaryPath := request.binaryPath
    dockerImage := request.dockerImage
    nodeId }

/-- What the task of a check carries, and to which node. -/
def AgentTask.entry (task : AgentTask) : RuntimeEntry :=
  { backend := task.payloadJson.getStr "backend"
    deployType := task.payloadJson.getStr "deploy_type"
    binaryPath := task.payloadJson.getStr "binary_path"
    dockerImage := task.payloadJson.getStr "docker_image"
    nodeId := some task.nodeId }

/-- The agent has run the check and found the environment in order. -/
def AgentTask.checkSucceeded (task : AgentTask) : Bool :=
  task.status = .succeeded &&
    runtimeEnvironmentUsable
      (some (((task.resultJson.getD (.obj [])).getStr "check_status").getD "available"))

structure RuntimeCheck where
  succeeded : Bool
  entry : RuntimeEntry
  deriving DecidableEq

abbrev RuntimeChecks := String → Option RuntimeCheck

/-- The checks after the one of this task, with the outcome that the task has by then. -/
def RuntimeChecks.afterCheck (checks : RuntimeChecks) (db : Db) (id taskId : String) : RuntimeChecks :=
  match db.agentTasks.find? taskId with
  | none => checks
  | some task => Function.update checks id
      (some { succeeded := task.checkSucceeded, entry := task.entry })

/-- The checks once a request has looked at its task for the last time. The check of a new environment
is one of the row that is inserted. -/
def RuntimeChecks.afterFinish (checks : RuntimeChecks) (db : Db) : PlatformRequest → RuntimeChecks
  | .plain (.checkRuntimeEnvironment id taskId _) => checks.afterCheck db id taskId
  | .plain (.createRuntimeEnvironment nodeId request id taskId rounds) =>
      if (serve (finishRuntimeCreation nodeId request id taskId rounds) db).1.isOk then
        checks.afterCheck db id taskId
      else checks
  | _ => checks

def recordRuntimeChecks (s : Platform) (op : PlatformOperation) (checks : RuntimeChecks) :
    RuntimeChecks :=
  match op with
  | .resume index =>
      match s.waiting[index]? with
      | none => checks
      | some request => checks.afterFinish s.db request
  | _ => checks

/-- A row that may be used, and is not Ollama's, was found in order by its last check, as it is now. -/
def Checked (check : Option RuntimeCheck) (row : RuntimeEnvironment) : Prop :=
  row.backend ≠ "ollama" → runtimeEnvironmentUsable row.checkStatus = true →
    check = some { succeeded := true, entry := row.entry }

def AllChecked (checks : RuntimeChecks) (db : Db) : Prop :=
  ∀ id row, db.runtimeEnvironments.find? id = some row → Checked (checks id) row

def UsableChecked (p : Platform × RuntimeChecks) : Prop := AllChecked p.2 p.1.db

/-- A start that is enqueued is one for a runtime environment that was checked as it is now. -/
def StartsChecked (deps : External) (p : Platform × RuntimeChecks) : PlatformOperation → Prop
  | .serve (.plain (.startModelInstance id taskId rounds)) =>
      ((PlatformRequest.plain (.startModelInstance id taskId rounds)).begin deps p.1.db).1 = true →
      ∀ instanceRow envId env, p.1.db.modelInstances.find? id = some instanceRow →
        instanceRow.runtimeEnvironmentId = some envId →
        p.1.db.runtimeEnvironments.find? envId = some env → env.backend ≠ "ollama" →
        p.2 envId = some { succeeded := true, entry := env.entry }
  | _ => True

/-! ### When the operations keep it -/

/-- The update passes its checks and no running instance uses the environment. -/
def updateApplies (deps : External) (db : Db) (id : String) (request : RuntimeEnvironmentRequest) :
    Bool :=
  (validateRuntimeRequest deps request).isOk &&
    ((db.modelInstances.rows.filter fun row =>
      row.runtimeEnvironmentId = some id && busyStatus row.status).map (·.name)).isEmpty

/-- A check that ends well finds the environment as the check was asked for, and one that does not end
well finds it unusable already. -/
def CheckFinds (db : Db) (id taskId : String) : Prop :=
  ∀ task row, db.agentTasks.find? taskId = some task → db.runtimeEnvironments.find? id = some row →
    row.backend ≠ "ollama" →
    if task.checkSucceeded then row.entry = task.entry
    else runtimeEnvironmentUsable row.checkStatus = false

/-- An update of a usable environment that does not make it Ollama's leaves it as it was checked last,
and every check finds the environment as `CheckFinds` says. -/
def KeepsChecked (deps : External) (p : Platform × RuntimeChecks) : PlatformOperation → Prop
  | .serve (.plain (.updateRuntimeEnvironment id request)) =>
      updateApplies deps p.1.db id request = true → request.backend ≠ "ollama" →
      ∀ row, p.1.db.runtimeEnvironments.find? id = some row →
        runtimeEnvironmentUsable row.checkStatus = true →
        p.2 id = some { succeeded := true, entry := request.entry row.nodeId }
  | .resume index =>
      match p.1.waiting[index]? with
      | some (.plain (.checkRuntimeEnvironment id taskId _)) => CheckFinds p.1.db id taskId
      | _ => True
  | _ => True

/-! ### What the requests write into the rows -/

/-- All rows but the one of this id stay as they are, and that one changes as `f` says. -/
def RuntimeWritten (id : String) (f : RuntimeEnvironment → RuntimeEnvironment) (db db' : Db) : Prop :=
  ∀ id', db'.runtimeEnvironments.find? id'
    = if id' = id then (db.runtimeEnvironments.find? id').map f else db.runtimeEnvironments.find? id'

/-- Every write but those on runtime environments. -/
def outsideRuntimeWrites : List Write :=
  [.insertAgentTask, .enqueueInstanceTask, .enqueueFileVerification, .claimAgentTask,
    .markTaskTimedOut, .recordResult, .setFileVerifying, .setFileVerifyTimeout, .expireModelFile,
    .insertModelFile, .updateModelFile, .deleteModelFile, .insertTrash, .setTrashCleanupRunning,
    .setTrashCleanupPending, .updateTrashFailure, .deleteTrash, .insertModelInstance,
    .updateInstanceCheck, .updateLocalInstance, .updateExternalInstance, .deleteModelInstance,
    .setInstanceLogTail, .recordHeartbeat]

def SameRuntimes (db db' : Db) : Prop := db'.runtimeEnvironments = db.runtimeEnvironments

theorem sameRuntimes_exec {stmt : Stmt} (h : stmt.Among outsideRuntimeWrites) (db : Db) :
    SameRuntimes db (stmt.exec db).2 := by
  have hinsert : ∀ {κ ρ : Type} [DecidableEq κ] {key : ρ → κ} (allowed : Bool)
      (table : Table κ ρ key) (row : ρ) {commit : Table κ ρ key → Db},
      (∀ table', (commit table').runtimeEnvironments = db.runtimeEnvironments) →
      SameRuntimes db (insertRow db allowed table row commit).2 :=
    fun allowed table row _ hcommit =>
      insertRow_projection Db.runtimeEnvironments db allowed table row hcommit
  cases stmt with
  | select q => rfl
  | insertAgentTask task => exact hinsert _ _ _ fun _ => rfl
  | enqueueInstanceTask task instanceId pendingStatus now => exact hinsert _ _ _ fun _ => rfl
  | enqueueFileVerification task fileId waitMessage now => exact hinsert _ _ _ fun _ => rfl
  | recordResult selected status result now =>
      exact exec_recordResult_projection Db.runtimeEnvironments (fun _ _ => rfl) (fun _ _ _ _ => rfl)
        (fun _ _ _ _ => rfl) (fun _ _ _ _ => rfl) status result now
  | insertModelFile file => exact hinsert _ _ _ fun _ => rfl
  | insertTrash item => exact hinsert _ _ _ fun _ => rfl
  | insertModelInstance row => exact hinsert _ _ _ fun _ => rfl
  | insertRuntime row => exact absurd (h _ rfl) (by decide)
  | updateRuntime runtimeId update now => exact absurd (h _ rfl) (by decide)
  | setRuntimeChecked runtimeId checked now => exact absurd (h _ rfl) (by decide)
  | updateRuntimeCheck runtimeId status message now => exact absurd (h _ rfl) (by decide)
  | deleteRuntime runtimeId => exact absurd (h _ rfl) (by decide)
  | recordHeartbeat request now =>
      simp only [Stmt.exec]
      split <;> rfl
  | _ => rfl

theorem respected_sameRuntimes : Respected SameRuntimes outsideRuntimeWrites where
  refl _ := rfl
  trans _ _ _ h h' := h'.trans h
  exec _ db h := sameRuntimes_exec h db
  models _ _ := rfl

theorem exec_insertRuntime (row : RuntimeEnvironment) (db : Db) :
    ((Stmt.insertRuntime row).exec db = (false, db)) ∨
    (((Stmt.insertRuntime row).exec db).1 = true ∧ db.runtimeEnvironments.find? row.id = none ∧
      ∀ id, ((Stmt.insertRuntime row).exec db).2.runtimeEnvironments.find? id
        = if id = row.id then some row else db.runtimeEnvironments.find? id) := by
  simp only [Stmt.exec, insertRow]
  split
  · cases hinsert : db.runtimeEnvironments.insert? row with
    | none => exact .inl rfl
    | some table =>
        exact .inr ⟨rfl, Table.insert?_fresh hinsert, fun id => Table.find?_insert? hinsert id⟩
  · exact .inl rfl

theorem runtimeWritten_of_update {id : String} {f : RuntimeEnvironment → RuntimeEnvironment}
    (hf : ∀ row, (f row).id = row.id) {db db' : Db}
    (hupdate : db'.runtimeEnvironments = db.runtimeEnvironments.update id f hf) :
    RuntimeWritten id f db db' := by
  intro id'
  rw [hupdate, Table.find?_update]

theorem runtimeWritten_updateCheck (id status message : String) (now : Int) (db : Db) :
    RuntimeWritten id (·.check status message now) db
      ((Stmt.updateRuntimeCheck id status message now).exec db).2 :=
  runtimeWritten_of_update (f := (·.check status message now)) (fun _ => rfl) rfl

theorem runtimeWritten_update (id : String) (update : RuntimeUpdate) (now : Int) (db : Db) :
    RuntimeWritten id (·.update update now) db ((Stmt.updateRuntime id update now).exec db).2 :=
  runtimeWritten_of_update (f := (·.update update now)) (fun _ => rfl) rfl

theorem runtimeWritten_setChecked (id : String) (checked : CheckedRuntimeEnvironment) (now : Int)
    (db : Db) :
    RuntimeWritten id (·.setChecked checked now) db
      ((Stmt.setRuntimeChecked id checked now).exec db).2 :=
  runtimeWritten_of_update (f := (·.setChecked checked now)) (fun _ => rfl) rfl

theorem RuntimeWritten.trans {id : String} {f g : RuntimeEnvironment → RuntimeEnvironment}
    {db db' db'' : Db} (h : RuntimeWritten id f db db') (h' : RuntimeWritten id g db' db'') :
    RuntimeWritten id (g ∘ f) db db'' := by
  intro id'
  rw [h' id', h id']
  by_cases hid : id' = id
  · rw [if_pos hid, if_pos hid, if_pos hid, Option.map_map]
  · rw [if_neg hid, if_neg hid, if_neg hid]

theorem serve_runtimeEnvironment (id : String) (db : Db) :
    serve (runtimeEnvironment id) db
      = (match db.runtimeEnvironments.find? id with
        | none => .error (.notFound "runtime environment not found")
        | some row => .ok row, db) := by
  unfold runtimeEnvironment
  rw [serve_bind_ok (serve_query _ db)]
  cases db.runtimeEnvironments.find? id <;> rfl

theorem serve_updateRuntimeEnvironmentCheck (id status message : String) (db : Db) :
    (serve (updateRuntimeEnvironmentCheck id status message) db).2
      = ((Stmt.updateRuntimeCheck id status message db.clock).exec db).2 := by
  unfold updateRuntimeEnvironmentCheck
  rw [serve_bind_ok (serve_nowUnixSecs db)]
  have hexecute := serve_execute (.updateRuntimeCheck id status message db.clock) db
  exact (congrArg Prod.snd (serve_bind_ok hexecute _)).trans
    (serve_of_reads (uses_runtimeEnvironment id) _)

theorem serve_refreshOllamaCheck (id : String) (db : Db) : ∃ message,
    (serve (refreshOllamaCheck id) db).2
      = ((Stmt.updateRuntimeCheck id "available" message db.clock).exec db).2 := by
  have hcheck : ∃ outcome, serve ollamaRuntimeConfigCheck db = (.ok outcome, db) ∧
      outcome.checkStatus = "available" := ⟨_, rfl, rfl⟩
  obtain ⟨outcome, hserve, hstatus⟩ := hcheck
  refine ⟨outcome.message, ?_⟩
  unfold refreshOllamaCheck
  rw [serve_bind_ok hserve, hstatus, serve_bind,
    ← serve_updateRuntimeEnvironmentCheck id "available" outcome.message db]
  split
  · rename_i hupdate
    rw [serve_runtimeEnvironment, hupdate]
  · rename_i hupdate
    rw [hupdate]

theorem runtimeEnvironmentUsable_some (status : String) :
    runtimeEnvironmentUsable (some status) = true
      ↔ ¬ (status ≠ "available" && status ≠ "version_unavailable") = true := by
  unfold runtimeEnvironmentUsable
  by_cases havailable : status = "available" <;> by_cases hversion : status = "version_unavailable" <;>
    simp [havailable, hversion]

/-- How the wait for a check ends when its request looks at the task for the last time. -/
theorem serve_waitForRuntimeCheck {taskId : String} {db : Db} {task : AgentTask}
    (htask : db.agentTasks.find? taskId = some task) (rounds : Nat) :
    (task.checkSucceeded = true ∧ ∃ outcome,
      runtimeEnvironmentUsable (some outcome.checkStatus) = true ∧
      serve (waitForRuntimeCheck taskId rounds) db = (.ok outcome, db)) ∨
    (task.checkSucceeded = false ∧ ∃ e db', SameRuntimes db db' ∧
      serve (waitForRuntimeCheck taskId rounds) db = (.error e, db')) := by
  have hwait : serve (waitForRuntimeCheck taskId rounds) db
      = serve ((runtimeCheckEnded task).getD do markTaskTimedOut taskId; throw runtimeCheckTimedOut)
          db := serve_waitForTask htask rounds
  have hdeadline : ∃ e db', SameRuntimes db db' ∧
      serve (do markTaskTimedOut taskId; throw runtimeCheckTimedOut : Handler CheckedRuntimeEnvironment)
        db = (.error e, db') :=
    ⟨runtimeCheckTimedOut, (serve (markTaskTimedOut taskId) db).2,
      Uses.respects (uses_markTaskTimedOut (by decide) taskId) respected_sameRuntimes db, rfl⟩
  rw [hwait]
  unfold runtimeCheckEnded AgentTask.checkSucceeded
  cases hstatus : task.status with
  | succeeded =>
      dsimp only
      generalize ((task.resultJson.getD (.obj [])).getStr "check_status").getD "available" = status
      by_cases hfound : runtimeEnvironmentUsable (some status) = true
      · left
        refine ⟨by simp [hfound], ?_⟩
        rw [if_neg ((runtimeEnvironmentUsable_some status).mp hfound)]
        refine ⟨{ checkStatus := status, .. }, hfound, rfl⟩
      · right
        rw [if_pos (not_not.mp (mt (runtimeEnvironmentUsable_some status).mpr hfound))]
        exact ⟨by simpa using hfound, _, db, rfl, rfl⟩
  | failed => exact .inr ⟨rfl, _, db, rfl, rfl⟩
  | timedOut => exact .inr ⟨rfl, _, db, rfl, rfl⟩
  | queued => exact .inr ⟨rfl, hdeadline⟩
  | running => exact .inr ⟨rfl, hdeadline⟩

/-! ### The invariant and the writes -/

theorem allChecked_same {checks : RuntimeChecks} {db db' : Db} (hsame : SameRuntimes db db') :
    AllChecked checks db' ↔ AllChecked checks db := by
  unfold AllChecked
  rw [hsame]

theorem allChecked_written {checks checks' : RuntimeChecks} {db db' : Db} {id : String}
    {f : RuntimeEnvironment → RuntimeEnvironment} (hwritten : RuntimeWritten id f db db')
    (hothers : ∀ id', id' ≠ id → checks' id' = checks id') (hdb : AllChecked checks db) :
    AllChecked checks' db' ↔
      ∀ row, db.runtimeEnvironments.find? id = some row → Checked (checks' id) (f row) := by
  constructor
  · intro hall row hrow
    refine hall id (f row) ?_
    rw [hwritten id, if_pos rfl, hrow]
    rfl
  · intro hhere id' row' hrow'
    rw [hwritten id'] at hrow'
    by_cases hid : id' = id
    · rw [if_pos hid, hid] at hrow'
      obtain ⟨row, hrow, rfl⟩ := Option.map_eq_some_iff.mp hrow'
      rw [hid]
      exact hhere row hrow
    · rw [if_neg hid] at hrow'
      rw [hothers id' hid]
      exact hdb id' row' hrow'

theorem allChecked_inserted {checks checks' : RuntimeChecks} {db db' : Db} {row : RuntimeEnvironment}
    (hinserted : ∀ id, db'.runtimeEnvironments.find? id
      = if id = row.id then some row else db.runtimeEnvironments.find? id)
    (hothers : ∀ id', id' ≠ row.id → checks' id' = checks id') (hdb : AllChecked checks db)
    (hrow : Checked (checks' row.id) row) : AllChecked checks' db' := by
  intro id row' hrow'
  rw [hinserted id] at hrow'
  by_cases hid : id = row.id
  · rw [if_pos hid] at hrow'
    obtain rfl := Option.some.inj hrow'
    rw [hid]
    exact hrow
  · rw [if_neg hid] at hrow'
    rw [hothers id hid]
    exact hdb id row' hrow'

theorem checked_of_unusable {check : Option RuntimeCheck} {row : RuntimeEnvironment}
    (h : runtimeEnvironmentUsable row.checkStatus = false) : Checked check row := by
  intro _ husable
  rw [h] at husable
  cases husable

theorem checked_of_ollama {check : Option RuntimeCheck} {row : RuntimeEnvironment}
    (h : row.backend = "ollama") : Checked check row :=
  fun hbackend => absurd h hbackend

/-! ### The requests -/

theorem serve_insertNewRuntime (nodeId : String) (request : RuntimeEnvironmentRequest) (id : String)
    (outcome : CheckedRuntimeEnvironment) (db : Db) :
    ((serve (insertNewRuntime nodeId request id outcome) db).1.isOk = false ∧
      (serve (insertNewRuntime nodeId request id outcome) db).2 = db) ∨
    ∃ row : RuntimeEnvironment, row.id = id ∧ row.backend = request.backend ∧
      row.entry = request.entry (some nodeId) ∧ row.checkStatus = some outcome.checkStatus ∧
      (serve (insertNewRuntime nodeId request id outcome) db).1.isOk = true ∧
      ∀ id', (serve (insertNewRuntime nodeId request id outcome) db).2.runtimeEnvironments.find? id'
        = if id' = row.id then some row else db.runtimeEnvironments.find? id' := by
  let row : RuntimeEnvironment :=
    { id
      nodeId := some nodeId
      name := request.name
      backend := request.backend
      deployType := request.deployType
      version := outcome.version.or request.version
      binaryPath := request.binaryPath
      dockerImage := request.dockerImage
      workingDir := request.workingDir
      logDir := request.logDir
      allowedModelDirsJson := request.allowedModelDirsJson
      paramsJson := request.paramsJson
      enabled := request.enabled.getD true
      lastCheckedAt := some outcome.checkedAt
      checkStatus := some outcome.checkStatus
      checkMessage := some outcome.message
      createdAt := db.clock
      updatedAt := db.clock }
  have hserve : serve (insertNewRuntime nodeId request id outcome) db
      = serve (do inserted ((Stmt.insertRuntime row).exec db).1; runtimeEnvironment id)
          ((Stmt.insertRuntime row).exec db).2 := by
    unfold insertNewRuntime
    rw [serve_bind_ok (serve_nowUnixSecs db)]
    exact serve_bind_ok (serve_execute (.insertRuntime row) db) _
  rw [hserve]
  rcases exec_insertRuntime row db with hrefused | ⟨haccepted, -, hrows⟩
  · left
    rw [hrefused]
    exact ⟨rfl, rfl⟩
  · right
    have hfind := hrows id
    rw [if_pos rfl] at hfind
    rw [haccepted]
    have hread : serve (do inserted true; runtimeEnvironment id) ((Stmt.insertRuntime row).exec db).2
        = (.ok row, ((Stmt.insertRuntime row).exec db).2) := by
      refine (serve_bind_ok rfl _).trans ?_
      rw [serve_runtimeEnvironment, hfind]
    rw [hread]
    exact ⟨row, rfl, rfl, rfl, rfl, rfl, hrows⟩

theorem sameRuntimes_enqueueRuntimeCheck (nodeId : String) (request : RuntimeEnvironmentRequest)
    (taskId : String) (db : Db) :
    SameRuntimes db (serve (enqueueRuntimeCheck nodeId request taskId) db).2 := by
  have huses : Uses outsideRuntimeWrites (enqueueRuntimeCheck nodeId request taskId) := by
    refine uses_bind uses_nowUnixSecs fun now => ?_
    exact uses_bind (uses_execute rfl (by decide)) fun accepted => uses_inserted accepted
  exact huses.respects respected_sameRuntimes db

theorem allChecked_insertNewRuntime {checks : RuntimeChecks} {db : Db} (hdb : AllChecked checks db)
    (nodeId : String) {request : RuntimeEnvironmentRequest} (hollama : request.backend = "ollama")
    (id : String) (outcome : CheckedRuntimeEnvironment) :
    AllChecked checks (serve (insertNewRuntime nodeId request id outcome) db).2 := by
  rcases serve_insertNewRuntime nodeId request id outcome db with
    ⟨-, hsame⟩ | ⟨row, -, hbackend, -, -, -, hrows⟩
  · rwa [hsame]
  · exact allChecked_inserted hrows (fun _ _ => rfl) hdb (checked_of_ollama (hbackend.trans hollama))

theorem allChecked_beginRuntimeCreation (deps : External) {checks : RuntimeChecks} {db : Db}
    (hdb : AllChecked checks db) (nodeId : String) (request : RuntimeEnvironmentRequest)
    (id taskId : String) :
    AllChecked checks (serve (beginRuntimeCreation deps nodeId request id taskId) db).2 := by
  unfold beginRuntimeCreation
  rcases serve_reads_bind (uses_checked _) _ db with ⟨e, h⟩ | ⟨_, -, h⟩
  · rwa [h]
  rw [h]
  by_cases hollama : request.backend = "ollama"
  · rw [if_pos hollama]
    rcases serve_reads_bind uses_ollamaRuntimeConfigCheck _ db with ⟨e, h⟩ | ⟨outcome, -, h⟩
    · rwa [h]
    rw [h, serve_then_pure]
    exact allChecked_insertNewRuntime hdb nodeId hollama id outcome
  · rw [if_neg hollama]
    rcases serve_reads_bind (uses_ensureNodeOnline nodeId) _ db with ⟨e, h⟩ | ⟨_, -, h⟩
    · rwa [h]
    rw [h, serve_then_pure]
    exact (allChecked_same (sameRuntimes_enqueueRuntimeCheck nodeId request taskId db)).mpr hdb

theorem serve_runtimeEnvironment_eq_ok {id : String} {row : RuntimeEnvironment} {db db' : Db}
    (h : serve (runtimeEnvironment id) db = (.ok row, db')) :
    db.runtimeEnvironments.find? id = some row := by
  rw [serve_runtimeEnvironment] at h
  cases hrow : db.runtimeEnvironments.find? id with
  | none =>
      rw [hrow] at h
      cases congrArg Prod.fst h
  | some row' =>
      rw [hrow] at h
      exact congrArg some (Except.ok.inj (congrArg Prod.fst h))

theorem allChecked_refreshOllamaCheck {checks : RuntimeChecks} {db : Db} {id : String}
    (hdb : ∀ id' row, id' ≠ id → db.runtimeEnvironments.find? id' = some row →
      Checked (checks id') row)
    (hollama : ∀ row, db.runtimeEnvironments.find? id = some row → row.backend = "ollama") :
    AllChecked checks (serve (refreshOllamaCheck id) db).2 := by
  obtain ⟨message, hserve⟩ := serve_refreshOllamaCheck id db
  have hwritten := runtimeWritten_updateCheck id "available" message db.clock db
  rw [hserve]
  intro id' row' hrow'
  rw [hwritten id'] at hrow'
  by_cases hid : id' = id
  · rw [if_pos hid, hid] at hrow'
    obtain ⟨row, hrow, rfl⟩ := Option.map_eq_some_iff.mp hrow'
    exact checked_of_ollama (hollama row hrow)
  · rw [if_neg hid] at hrow'
    exact hdb id' row' hid hrow'

theorem allChecked_beginRuntimeCheck {checks : RuntimeChecks} {db : Db} (hdb : AllChecked checks db)
    (id taskId : String) : AllChecked checks (serve (beginRuntimeCheck id taskId) db).2 := by
  unfold beginRuntimeCheck
  rcases serve_reads_bind (uses_runtimeEnvironment id) _ db with ⟨e, h⟩ | ⟨environment, hread, h⟩
  · rwa [h]
  rw [h]
  have hrow := serve_runtimeEnvironment_eq_ok hread
  by_cases hollama : environment.backend = "ollama"
  · rw [if_pos hollama, serve_then_pure]
    refine allChecked_refreshOllamaCheck (fun id' row _ => hdb id' row) fun row hrow' => ?_
    rw [hrow] at hrow'
    rwa [← Option.some.inj hrow']
  · rw [if_neg hollama]
    rcases serve_reads_bind (uses_required _ _) _ db with ⟨e, h⟩ | ⟨nodeId, -, h⟩
    · rwa [h]
    rw [h]
    rcases serve_reads_bind (uses_nodeOnline nodeId) _ db with ⟨e, h⟩ | ⟨online, -, h⟩
    · rwa [h]
    rw [h]
    cases online with
    | true =>
        rw [if_pos rfl, serve_then_pure]
        exact (allChecked_same
          (sameRuntimes_enqueueRuntimeCheck nodeId (runtimeRequestOfRow environment) taskId db)).mpr hdb
    | false =>
        rw [if_neg Bool.false_ne_true]
        have hoffline := (allChecked_written (runtimeWritten_updateCheck id "agent_offline"
          "Node Agent offline, cannot check runtime environment" db.clock db) (fun _ _ => rfl)
          hdb).mpr fun row _ => checked_of_unusable rfl
        rw [← serve_updateRuntimeEnvironmentCheck] at hoffline
        cases hserve : serve (updateRuntimeEnvironmentCheck id "agent_offline"
            "Node Agent offline, cannot check runtime environment") db with
        | mk outcome db' =>
            rw [hserve] at hoffline
            cases outcome with
            | error e => rwa [serve_bind_error hserve]
            | ok row => rwa [serve_bind_ok hserve]

/-- What an update that applies does to the rows, unless it makes the environment Ollama's. -/
theorem serve_saveRuntimeEnvironment (id : String) (request : RuntimeEnvironmentRequest) (db : Db) :
    ∃ update : RuntimeUpdate,
      (∀ row : RuntimeEnvironment, (row.update update db.clock).entry = request.entry row.nodeId) ∧
      update.backend = request.backend ∧
      (request.backend ≠ "ollama" →
        (serve (saveRuntimeEnvironment id request) db).2
          = ((Stmt.updateRuntime id update db.clock).exec db).2) ∧
      (request.backend = "ollama" → (db.runtimeEnvironments.find? id).isSome = true →
        (serve (saveRuntimeEnvironment id request) db).2
          = (serve (refreshOllamaCheck id) ((Stmt.updateRuntime id update db.clock).exec db).2).2) ∧
      ((db.runtimeEnvironments.find? id).isSome = false →
        (serve (saveRuntimeEnvironment id request) db).2
          = ((Stmt.updateRuntime id update db.clock).exec db).2) := by
  let update : RuntimeUpdate :=
    { name := request.name
      backend := request.backend
      deployType := request.deployType
      version := request.version
      binaryPath := request.binaryPath
      dockerImage := request.dockerImage
      workingDir := request.workingDir
      logDir := request.logDir
      allowedModelDirsJson := request.allowedModelDirsJson
      paramsJson := request.paramsJson
      enabled := request.enabled.getD true }
  have hserve : serve (saveRuntimeEnvironment id request) db
      = serve (do
          rejectIf (!(db.runtimeEnvironments.find? id).isSome)
            (.notFound "runtime environment not found")
          if request.backend = "ollama" then refreshOllamaCheck id else runtimeEnvironment id)
        ((Stmt.updateRuntime id update db.clock).exec db).2 := by
    unfold saveRuntimeEnvironment
    rw [serve_bind_ok (serve_nowUnixSecs db)]
    exact serve_bind_ok (serve_execute (.updateRuntime id update db.clock) db) _
  refine ⟨update, fun _ => rfl, rfl, ?_, ?_, ?_⟩
  · intro hbackend
    rw [hserve, if_neg hbackend]
    cases (db.runtimeEnvironments.find? id).isSome with
    | false => rfl
    | true => exact serve_of_reads (uses_runtimeEnvironment id) _
  · intro hollama hfound
    rw [hserve, if_pos hollama, hfound]
    rfl
  · intro hmissing
    rw [hserve, hmissing]
    rfl

theorem serve_updateRuntimeEnvironment (deps : External) (id : String)
    (request : RuntimeEnvironmentRequest) (db : Db) :
    (serve (updateRuntimeEnvironment deps id request) db).2
      = if updateApplies deps db id request then (serve (saveRuntimeEnvironment id request) db).2
        else db := by
  unfold updateRuntimeEnvironment updateApplies
  cases hvalid : validateRuntimeRequest deps request with
  | error e => rfl
  | ok valid =>
      rw [serve_bind_ok (serve_checked_ok valid db), serve_bind_ok (serve_query _ db)]
      generalize ((db.modelInstances.rows.filter fun row =>
        row.runtimeEnvironmentId = some id && busyStatus row.status).map (·.name)) = names
      cases names with
      | nil => rfl
      | cons name names => rfl

theorem allChecked_update_iff (deps : External) {checks : RuntimeChecks} {db : Db}
    (hdb : AllChecked checks db) (id : String) (request : RuntimeEnvironmentRequest) :
    AllChecked checks (serve (updateRuntimeEnvironment deps id request) db).2 ↔
      (updateApplies deps db id request = true → request.backend ≠ "ollama" →
        ∀ row, db.runtimeEnvironments.find? id = some row →
          runtimeEnvironmentUsable row.checkStatus = true →
          checks id = some { succeeded := true, entry := request.entry row.nodeId }) := by
  rw [serve_updateRuntimeEnvironment]
  by_cases happlies : updateApplies deps db id request = true
  case neg =>
    rw [if_neg happlies]
    exact iff_of_true hdb fun h => absurd h happlies
  rw [if_pos happlies]
  obtain ⟨update, hentry, hbackend, hother, hollama, hmissing⟩ :=
    serve_saveRuntimeEnvironment id request db
  have hwritten := runtimeWritten_update id update db.clock db
  by_cases hisOllama : request.backend = "ollama"
  · refine iff_of_true ?_ fun _ h => absurd hisOllama h
    cases hrow : db.runtimeEnvironments.find? id with
    | none =>
        rw [hmissing (by rw [hrow]; rfl)]
        refine (allChecked_written hwritten (fun _ _ => rfl) hdb).mpr fun row hrow' => ?_
        rw [hrow] at hrow'
        cases hrow'
    | some row =>
        rw [hollama hisOllama (by rw [hrow]; rfl)]
        refine allChecked_refreshOllamaCheck (fun id' row' hid hrow' => ?_) fun row' hrow' => ?_
        · rw [hwritten id', if_neg hid] at hrow'
          exact hdb id' row' hrow'
        · rw [hwritten id, if_pos rfl, hrow] at hrow'
          rw [← Option.some.inj hrow']
          exact hbackend.trans hisOllama
  · rw [hother hisOllama, allChecked_written hwritten (fun _ _ => rfl) hdb]
    constructor
    · intro hall _ _ row hrow husable
      have hchecked := hall row hrow (fun h => hisOllama (hbackend.symm.trans h)) husable
      rwa [hentry row] at hchecked
    · intro hkeeps row hrow _ husable
      rw [hentry row]
      exact hkeeps happlies hisOllama row hrow husable

theorem allChecked_delete {checks : RuntimeChecks} {db : Db} (hdb : AllChecked checks db)
    (id : String) : AllChecked checks (serve (deleteRuntimeEnvironment id) db).2 := by
  have hexec : AllChecked checks ((Stmt.deleteRuntime id).exec db).2 := by
    simp only [Stmt.exec]
    split
    · exact hdb
    · intro id' row hrow
      change (db.runtimeEnvironments.delete id).find? id' = some row at hrow
      rw [Table.find?_delete] at hrow
      by_cases hid : id' = id
      · rw [if_pos hid] at hrow
        cases hrow
      · rw [if_neg hid] at hrow
        exact hdb id' row hrow
  unfold deleteRuntimeEnvironment
  rw [serve_bind_ok (serve_query _ db)]
  rcases serve_reads_bind (uses_rejectIf _ _) _ db with ⟨e, h⟩ | ⟨_, -, h⟩
  · rwa [h]
  rw [h]
  have hserve : serve (do
        let found ← checked (← execute (.deleteRuntime id))
        rejectIf (!found) (.notFound "runtime environment not found")) db
      = serve (do
        let found ← checked ((Stmt.deleteRuntime id).exec db).1
        rejectIf (!found) (.notFound "runtime environment not found"))
        ((Stmt.deleteRuntime id).exec db).2 :=
    serve_bind_ok (serve_execute (.deleteRuntime id) db) _
  rw [hserve, serve_of_reads]
  · exact hexec
  · exact uses_bind (uses_checked _) fun found => uses_rejectIf _ _

theorem runtimeWritten_of_same {db db' : Db} (hsame : SameRuntimes db db') (id : String) :
    RuntimeWritten id (fun row => row) db db' := by
  intro id'
  rw [hsame, Option.map_id']
  split <;> rfl

theorem afterCheck_of_some {checks : RuntimeChecks} {db : Db} {id taskId : String} {task : AgentTask}
    (htask : db.agentTasks.find? taskId = some task) :
    checks.afterCheck db id taskId = Function.update checks id
      (some { succeeded := task.checkSucceeded, entry := task.entry }) := by
  unfold RuntimeChecks.afterCheck
  rw [htask]

theorem allChecked_finishRuntimeCheck_iff {checks : RuntimeChecks} {db : Db}
    (hdb : AllChecked checks db) (id taskId : String) (rounds : Nat) :
    AllChecked (checks.afterCheck db id taskId) (serve (finishRuntimeCheck id taskId rounds) db).2
      ↔ CheckFinds db id taskId := by
  cases htask : db.agentTasks.find? taskId with
  | none =>
      have hserve : serve (finishRuntimeCheck id taskId rounds) db = (.error rowNotFound, db) :=
        serve_bind_error (serve_waitForTask_of_none htask rounds) _
      have hsame : checks.afterCheck db id taskId = checks := by
        unfold RuntimeChecks.afterCheck
        rw [htask]
      rw [hserve, hsame]
      refine iff_of_true hdb fun task row htask' => ?_
      rw [htask] at htask'
      cases htask'
  | some task =>
      rw [afterCheck_of_some htask]
      have hothers : ∀ id', id' ≠ id → Function.update checks id
          (some { succeeded := task.checkSucceeded, entry := task.entry }) id' = checks id' :=
        fun id' hid => Function.update_of_ne hid _ _
      unfold CheckFinds
      rw [htask]
      rcases serve_waitForRuntimeCheck htask rounds with
        ⟨hsucceeded, outcome, husable, hwait⟩ | ⟨hfailed, e, db', hsame, hwait⟩
      · have hserve : (serve (finishRuntimeCheck id taskId rounds) db).2
            = ((Stmt.setRuntimeChecked id outcome db.clock).exec db).2 := by
          unfold finishRuntimeCheck
          rw [serve_bind_ok hwait, serve_bind_ok (serve_nowUnixSecs db)]
          have hexecute := serve_execute (.setRuntimeChecked id outcome db.clock) db
          exact (congrArg Prod.snd (serve_bind_ok hexecute _)).trans
            (serve_of_reads (uses_runtimeEnvironment id) _)
        rw [hserve, allChecked_written (runtimeWritten_setChecked id outcome db.clock db) hothers hdb,
          Function.update_self, hsucceeded]
        constructor
        · intro hall task' row htask' hrow hbackend
          rw [← Option.some.inj htask', hsucceeded, if_pos rfl]
          have hchecked := hall row hrow hbackend husable
          exact (congrArg RuntimeCheck.entry (Option.some.inj hchecked)).symm
        · intro hfinds row hrow hbackend _
          have hentry := hfinds task row rfl hrow hbackend
          rw [hsucceeded, if_pos rfl] at hentry
          exact congrArg (fun entry => some { succeeded := true, entry : RuntimeCheck }) hentry.symm
      · have hserve : serve (finishRuntimeCheck id taskId rounds) db = (.error e, db') :=
          serve_bind_error hwait _
        rw [hserve, allChecked_written (runtimeWritten_of_same hsame id) hothers hdb,
          Function.update_self, hfailed]
        constructor
        · intro hall task' row htask' hrow hbackend
          rw [← Option.some.inj htask', hfailed, if_neg Bool.false_ne_true]
          by_contra husable
          have hchecked := hall row hrow hbackend (by simpa using husable)
          exact Bool.false_ne_true (congrArg RuntimeCheck.succeeded (Option.some.inj hchecked))
        · intro hfinds row hrow hbackend husable
          have hunusable := hfinds task row rfl hrow hbackend
          rw [hfailed, if_neg Bool.false_ne_true, husable] at hunusable
          cases hunusable

theorem allChecked_finishRuntimeCreation {checks : RuntimeChecks} {db : Db}
    (hdb : AllChecked checks db) {nodeId : String} {request : RuntimeEnvironmentRequest}
    {id taskId : String} {rounds : Nat}
    (htask : ∃ task, db.agentTasks.find? taskId = some task ∧
      task.entry = request.entry (some nodeId)) :
    AllChecked
      (checks.afterFinish db (.plain (.createRuntimeEnvironment nodeId request id taskId rounds)))
      (serve (finishRuntimeCreation nodeId request id taskId rounds) db).2 := by
  obtain ⟨task, htask, hentry⟩ := htask
  dsimp only [RuntimeChecks.afterFinish]
  rw [afterCheck_of_some htask]
  rcases serve_waitForRuntimeCheck htask rounds with
    ⟨hsucceeded, outcome, husable, hwait⟩ | ⟨-, e, db', hsame, hwait⟩
  · have hserve : serve (finishRuntimeCreation nodeId request id taskId rounds) db
        = serve (insertNewRuntime nodeId request id outcome) db := serve_bind_ok hwait _
    rw [hserve]
    rcases serve_insertNewRuntime nodeId request id outcome db with
      ⟨hrefused, hunchanged⟩ | ⟨row, hid, -, hrow, -, haccepted, hrows⟩
    · rw [hrefused, hunchanged, if_neg Bool.false_ne_true]
      exact hdb
    · rw [haccepted, if_pos rfl]
      refine allChecked_inserted hrows (fun id' hne => ?_) hdb fun _ _ => ?_
      · rw [hid] at hne
        exact Function.update_of_ne hne _ _
      · rw [hid, Function.update_self, hsucceeded, hentry, hrow]
  · have hserve : serve (finishRuntimeCreation nodeId request id taskId rounds) db
        = (.error e, db') := serve_bind_error hwait _
    rw [hserve]
    exact (allChecked_same hsame).mpr hdb

/-! ### Waiting for the check of a new environment -/

/-- A request that creates an environment waits for the check of what it asks for. -/
def CreationsAwaited (s : Platform) : Prop :=
  ∀ nodeId request id taskId rounds,
    .plain (.createRuntimeEnvironment nodeId request id taskId rounds) ∈ s.waiting →
    ∃ task, s.db.agentTasks.find? taskId = some task ∧ task.entry = request.entry (some nodeId)

theorem getStr_runtimeCheckPayload (request : RuntimeEnvironmentRequest) (nodeId : String)
    {task : AgentTask} (hnode : task.nodeId = nodeId)
    (hpayload : task.payloadJson = runtimeCheckPayload request) :
    task.entry = request.entry (some nodeId) := by
  have hofOption : ∀ value : Option String, (some (Json.ofOption value)).bind Json.asStr = value := by
    intro value
    cases value <;> rfl
  unfold AgentTask.entry RuntimeEnvironmentRequest.entry
  rw [hpayload, hnode]
  unfold runtimeCheckPayload Json.getStr
  simp only [Json.get?_obj_cons, String.reduceEq, if_true, if_false, hofOption]
  rfl

theorem serve_enqueueRuntimeCheck_ok {nodeId : String} {request : RuntimeEnvironmentRequest}
    {taskId : String} {db db' : Db}
    (h : serve (enqueueRuntimeCheck nodeId request taskId) db = (.ok (), db')) :
    ∃ task, db'.agentTasks.find? taskId = some task ∧ task.entry = request.entry (some nodeId) := by
  let task : NewAgentTask :=
    { id := taskId
      nodeId
      kind := .checkRuntimeEnvironment
      payloadJson := runtimeCheckPayload request
      now := db.clock }
  have hserve : serve (enqueueRuntimeCheck nodeId request taskId) db
      = serve (inserted ((Stmt.insertAgentTask task).exec db).1)
          ((Stmt.insertAgentTask task).exec db).2 := by
    unfold enqueueRuntimeCheck
    rw [serve_bind_ok (serve_nowUnixSecs db)]
    exact serve_bind_ok (serve_execute (.insertAgentTask task) db) _
  rw [hserve] at h
  have hdb' : ((Stmt.insertAgentTask task).exec db).2 = db' :=
    (serve_of_reads (uses_inserted _) _).symm.trans (congrArg Prod.snd h)
  cases haccepted : ((Stmt.insertAgentTask task).exec db).1 with
  | false =>
      rw [haccepted] at h
      cases congrArg Prod.fst h
  | true =>
      have hstored := @insertTask_stored _ task id (fun _ => rfl) haccepted
      refine ⟨task.row, ?_, getStr_runtimeCheckPayload request nodeId rfl rfl⟩
      rw [← hdb']
      exact hstored

theorem serve_beginRuntimeCreation_waits {deps : External} {nodeId : String}
    {request : RuntimeEnvironmentRequest} {id taskId : String} {db db' : Db}
    (h : serve (beginRuntimeCreation deps nodeId request id taskId) db = (.ok none, db')) :
    ∃ task, db'.agentTasks.find? taskId = some task ∧ task.entry = request.entry (some nodeId) := by
  unfold beginRuntimeCreation at h
  obtain ⟨_, db₁, -, h⟩ := serve_bind_eq_ok h
  by_cases hollama : request.backend = "ollama"
  · rw [if_pos hollama] at h
    obtain ⟨outcome, db₂, -, h⟩ := serve_bind_eq_ok h
    obtain ⟨row, db₃, -, h⟩ := serve_bind_eq_ok h
    cases congrArg Prod.fst h
  · rw [if_neg hollama] at h
    obtain ⟨_, db₂, -, h⟩ := serve_bind_eq_ok h
    obtain ⟨_, db₃, henqueue, h⟩ := serve_bind_eq_ok h
    obtain rfl : db₃ = db' := congrArg Prod.snd h
    exact serve_enqueueRuntimeCheck_ok henqueue

theorem creationsAwaited_perform (deps : External) (s : Platform) (op : PlatformOperation)
    (hs : CreationsAwaited s) : CreationsAwaited (op.perform deps s) := by
  have hkept : ∀ {db' : Db}, TasksKept s.db db' → ∀ nodeId request id taskId rounds,
      .plain (.createRuntimeEnvironment nodeId request id taskId rounds) ∈ s.waiting →
      ∃ task, db'.agentTasks.find? taskId = some task ∧ task.entry = request.entry (some nodeId) := by
    intro db' hkept nodeId request id taskId rounds hmem
    obtain ⟨task, htask, hentry⟩ := hs nodeId request id taskId rounds hmem
    obtain ⟨task', htask', hnode, -, hpayload⟩ := hkept taskId task htask
    refine ⟨task', htask', ?_⟩
    rw [← hentry]
    unfold AgentTask.entry
    rw [hnode, hpayload]
  cases op with
  | serve request =>
      have htasks := respected_begin deps request (respected_tasksKept request.writes) s.db
      intro nodeId request' id taskId rounds hmem
      dsimp only [PlatformOperation.perform] at hmem ⊢
      split at hmem
      · rename_i hwaits
        rcases List.mem_cons.mp hmem with rfl | hmem
        · exact serve_beginRuntimeCreation_waits (serve_waitsUnless_none (begin_plain_eq_true hwaits))
        · exact hkept htasks nodeId request' id taskId rounds hmem
      · exact hkept htasks nodeId request' id taskId rounds hmem
  | resume index =>
      dsimp only [PlatformOperation.perform]
      cases hget : s.waiting[index]? with
      | none => exact hs
      | some request =>
          have htasks := respected_finish request (respected_tasksKept request.writes) s.db
          intro nodeId request' id taskId rounds hmem
          exact hkept htasks nodeId request' id taskId rounds (List.mem_of_mem_eraseIdx hmem)
  | act action =>
      intro nodeId request id taskId rounds hmem
      obtain ⟨task, htask, hentry⟩ := hs nodeId request id taskId rounds hmem
      exact ⟨task, by rw [PlatformOperation.perform, act_agentTasks, htask], hentry⟩

/-! ### In every run -/

theorem sameRuntimes_begin (deps : External) {request : PlatformRequest}
    (houtside : request.writes ⊆ outsideRuntimeWrites) (db : Db) :
    SameRuntimes db (request.begin deps db).2 :=
  respected_begin deps request (respected_sameRuntimes.mono houtside) db

theorem sameRuntimes_finish {request : PlatformRequest}
    (houtside : request.writes ⊆ outsideRuntimeWrites) (db : Db) :
    SameRuntimes db (request.finish db) :=
  respected_finish request (respected_sameRuntimes.mono houtside) db

theorem allChecked_begin_iff (deps : External) {s : Platform} {checks : RuntimeChecks}
    (hdb : AllChecked checks s.db) (request : PlatformRequest) :
    AllChecked checks (request.begin deps s.db).2 ↔ KeepsChecked deps (s, checks) (.serve request) := by
  have hkept : ∀ {request : PlatformRequest}, request.writes ⊆ outsideRuntimeWrites →
      AllChecked checks (request.begin deps s.db).2 :=
    fun houtside => (allChecked_same (sameRuntimes_begin deps houtside s.db)).mpr hdb
  cases request with
  | createModel request id fileId taskId rounds =>
      refine iff_of_true (hkept ?_) trivial
      simp only [PlatformRequest.writes]
      decide
  | deleteModel id trashId =>
      refine iff_of_true (hkept ?_) trivial
      simp only [PlatformRequest.writes]
      decide
  | plain request =>
      cases request
      case createRuntimeEnvironment nodeId request id taskId rounds =>
          refine iff_of_true ?_ trivial
          rw [db_begin_plain, Request.begin, waitsUnless, serve_then_pure]
          exact allChecked_beginRuntimeCreation deps hdb nodeId request id taskId
      case checkRuntimeEnvironment id taskId rounds =>
          refine iff_of_true ?_ trivial
          rw [db_begin_plain, Request.begin, waitsUnless, serve_then_pure]
          exact allChecked_beginRuntimeCheck hdb id taskId
      case updateRuntimeEnvironment id request =>
          rw [db_begin_plain]
          change AllChecked checks
            (serve (ended (answered (updateRuntimeEnvironment deps id request))) s.db).2 ↔ _
          rw [serve_ended_answered]
          exact allChecked_update_iff deps hdb id request
      case deleteRuntimeEnvironment id =>
          refine iff_of_true ?_ trivial
          rw [db_begin_plain]
          change AllChecked checks (serve (ended (answered (deleteRuntimeEnvironment id))) s.db).2
          rw [serve_ended_answered]
          exact allChecked_delete hdb id
      all_goals
        refine iff_of_true (hkept ?_) trivial
        simp only [PlatformRequest.writes, Request.writes]
        decide

theorem allChecked_resume_iff (deps : External) {s : Platform} {checks : RuntimeChecks}
    (hs : CreationsAwaited s) (hdb : AllChecked checks s.db) {index : Nat} {request : PlatformRequest}
    (hget : s.waiting[index]? = some request) :
    AllChecked (checks.afterFinish s.db request) (request.finish s.db)
      ↔ KeepsChecked deps (s, checks) (.resume index) := by
  have hkept : ∀ {request : PlatformRequest}, request.writes ⊆ outsideRuntimeWrites →
      AllChecked checks (request.finish s.db) :=
    fun houtside => (allChecked_same (sameRuntimes_finish houtside s.db)).mpr hdb
  dsimp only [KeepsChecked]
  rw [hget]
  cases request with
  | createModel request id fileId taskId rounds =>
      refine iff_of_true (hkept ?_) trivial
      simp only [PlatformRequest.writes]
      decide
  | deleteModel id trashId =>
      refine iff_of_true (hkept ?_) trivial
      simp only [PlatformRequest.writes]
      decide
  | plain request =>
      cases request
      case createRuntimeEnvironment nodeId request id taskId rounds =>
          refine iff_of_true ?_ trivial
          have htask := hs nodeId request id taskId rounds (List.mem_of_getElem? hget)
          have hfinish := @allChecked_finishRuntimeCreation _ _ hdb nodeId request id taskId rounds
            htask
          rw [PlatformRequest.finish, Request.finish, answered, serve_then_pure]
          exact hfinish
      case checkRuntimeEnvironment id taskId rounds =>
          rw [PlatformRequest.finish, Request.finish, answered, serve_then_pure]
          exact allChecked_finishRuntimeCheck_iff hdb id taskId rounds
      all_goals first
        | (refine iff_of_true (hkept ?_) trivial
           simp only [PlatformRequest.writes, Request.writes]
           decide)
        | exact iff_of_true hdb trivial

/-- One operation of the platform together with what it does to the checks. -/
def checkedStep (deps : External) :
    Platform × RuntimeChecks → PlatformOperation → Platform × RuntimeChecks :=
  Trace.withHistory (fun s op => op.perform deps s) recordRuntimeChecks

theorem usableChecked_step_iff (deps : External) (p : Platform × RuntimeChecks)
    (op : PlatformOperation) (hs : CreationsAwaited p.1) (hp : UsableChecked p) :
    UsableChecked (checkedStep deps p op) ↔ KeepsChecked deps p op := by
  obtain ⟨s, checks⟩ := p
  cases op with
  | serve request => exact allChecked_begin_iff deps hp request
  | resume index =>
      cases hget : s.waiting[index]? with
      | none =>
          have hstep : checkedStep deps (s, checks) (.resume index) = (s, checks) := by
            dsimp only [checkedStep, Trace.withHistory, PlatformOperation.perform,
              recordRuntimeChecks]
            rw [hget]
          have hkeeps : KeepsChecked deps (s, checks) (.resume index) := by
            dsimp only [KeepsChecked]
            rw [hget]
            trivial
          rw [hstep]
          exact iff_of_true hp hkeeps
      | some request =>
          have hstep : checkedStep deps (s, checks) (.resume index)
              = ({ db := request.finish s.db, waiting := s.waiting.eraseIdx index },
                  checks.afterFinish s.db request) := by
            dsimp only [checkedStep, Trace.withHistory, PlatformOperation.perform,
              recordRuntimeChecks]
            rw [hget]
          rw [hstep]
          exact allChecked_resume_iff deps hs hp hget
  | act action =>
      refine iff_of_true ?_ trivial
      have hsame : SameRuntimes s.db (action.act s.db) := by cases action <;> rfl
      exact (allChecked_same hsame).mpr hp

/-- A start that is enqueued is one for an environment that may be used. -/
theorem startsChecked_of_usableChecked (deps : External) (p : Platform × RuntimeChecks)
    (op : PlatformOperation) (hp : UsableChecked p) : StartsChecked deps p op := by
  cases op with
  | resume index => trivial
  | act action => trivial
  | serve request =>
      cases request with
      | createModel request id fileId taskId rounds => trivial
      | deleteModel id trashId => trivial
      | plain request =>
          cases request
          case startModelInstance id taskId rounds =>
              intro hwaits instanceRow envId env hrow hruntime henv hbackend
              have hserve := begin_plain_eq_true hwaits
              obtain ⟨_, db', henqueue, -⟩ := serve_bind_eq_ok hserve
              rcases serve_enqueue_cases deps id .startModelInstance "starting" taskId p.1.db with
                ⟨e, hrefused⟩ | ⟨task, ⟨hfor⟩, -, -⟩
              · rw [hrefused] at henqueue
                cases congrArg Prod.fst henqueue
              · obtain rfl := Option.some.inj (hfor.find_row.symm.trans hrow)
                obtain rfl := Option.some.inj (hfor.runtime.symm.trans hruntime)
                obtain rfl := Option.some.inj (hfor.find_env.symm.trans henv)
                exact hp _ _ henv hbackend hfor.usable
          all_goals trivial

/-- The platform before any runtime environment has been created. -/
def withoutRuntimes (db : Db) : Platform × RuntimeChecks :=
  ({ db := { db with runtimeEnvironments := .empty } }, fun _ => none)

/-- One node that is online, and nothing else. -/
def oneNodeDb : Db := { clock := 1000, nodes := oneNode }

def vllmImage (image : String) : RuntimeEnvironmentRequest :=
  { name := "runtime", backend := "vllm", deployType := "docker", dockerImage := some image }

/-- An environment is created with one image, which the agent checks, and is then given another. -/
def reimagedOps : List PlatformOperation :=
  [ .serve (.plain (.createRuntimeEnvironment "n" (vllmImage "vllm:1") "r" "t" 0)),
    .serve (.plain (.pollAgentTask "n" none [])),
    .serve (.plain (.recordAgentTaskResult "t"
      { nodeId := "n", status := "succeeded", result := .obj [] })),
    .resume 0,
    .serve (.plain (.updateRuntimeEnvironment "r" (vllmImage "vllm:2"))) ]

end LightAI.Server
