import LightAI.Server.ModelCatalog
import LightAI.Server.Served

/-!
# The server as a sequence of requests

Here a request is one step, apart from those that enqueue a task and wait for it, which are two: up to
the enqueueing, and from their last look at the task on. Between the two any other requests may be
served, and a request that is never resumed is one whose connection was dropped. A request served in one
go looks at its task as often as it likes and always sees the same, so that the number of its turns does
not matter here.
-/

namespace LightAI.Server

/-! ### The two parts of a request that waits -/

/-- `check_runtime_environment_before_save` up to its wait. -/
def enqueueRuntimeCheck (nodeId : String) (request : RuntimeEnvironmentRequest) (taskId : String) :
    Handler Unit := do
  let now ← nowUnixSecs
  inserted (← execute (.insertAgentTask
    { id := taskId
      nodeId
      kind := .checkRuntimeEnvironment
      payloadJson := runtimeCheckPayload request
      now }))

def waitForRuntimeCheck (taskId : String) (rounds : Nat) : Handler CheckedRuntimeEnvironment :=
  waitForTask taskId runtimeCheckEnded
    (do
      markTaskTimedOut taskId
      throw runtimeCheckTimedOut)
    rounds

theorem checkRuntimeEnvironmentBeforeSave_eq (nodeId : String) (request : RuntimeEnvironmentRequest)
    (taskId : String) (rounds : Nat) :
    checkRuntimeEnvironmentBeforeSave nodeId request taskId rounds = (do
      enqueueRuntimeCheck nodeId request taskId
      waitForRuntimeCheck taskId rounds) := by
  unfold checkRuntimeEnvironmentBeforeSave enqueueRuntimeCheck
  simp only [bind_assoc]
  rfl

/-- `create_runtime_environment` from the outcome of its check on. -/
def insertNewRuntime (nodeId : String) (request : RuntimeEnvironmentRequest) (id : String)
    (outcome : CheckedRuntimeEnvironment) : Handler RuntimeEnvironment := do
  let now ← nowUnixSecs
  inserted (← execute (.insertRuntime
    { id
      nodeId := some nodeId
      name := request.name
      backend := request.backend
      deployType := request.deployType
      version := outcome.version.or request.version
      binaryPath := request.binaryPath
      dockerImage := request.dockerImage
      workingDir := request.workingDir
      logDir := request.logDir
      allowedModelDirsJson := request.allowedModelDirsJson
      paramsJson := request.paramsJson
      enabled := request.enabled.getD true
      lastCheckedAt := some outcome.checkedAt
      checkStatus := some outcome.checkStatus
      checkMessage := some outcome.message
      createdAt := now
      updatedAt := now }))
  runtimeEnvironment id

/-- `create_runtime_environment` up to its wait, or to its end where the backend is Ollama. -/
def beginRuntimeCreation (deps : External) (nodeId : String) (request : RuntimeEnvironmentRequest)
    (id taskId : String) : Handler (Option RuntimeEnvironment) := do
  checked (validateRuntimeRequest deps request)
  if request.backend = "ollama" then do
    let outcome ← ollamaRuntimeConfigCheck
    let row ← insertNewRuntime nodeId request id outcome
    pure (some row)
  else do
    ensureNodeOnline nodeId
    enqueueRuntimeCheck nodeId request taskId
    pure none

def finishRuntimeCreation (nodeId : String) (request : RuntimeEnvironmentRequest)
    (id taskId : String) (rounds : Nat) : Handler RuntimeEnvironment := do
  let outcome ← waitForRuntimeCheck taskId rounds
  insertNewRuntime nodeId request id outcome

/-- `check_runtime_environment` up to its wait, or to its end where the backend is Ollama. -/
def beginRuntimeCheck (id taskId : String) : Handler (Option RuntimeEnvironment) := do
  let environment ← runtimeEnvironment id
  if environment.backend = "ollama" then do
    let row ← refreshOllamaCheck id
    pure (some row)
  else do
    let nodeId ← required (.badRequest "Runtime must be bound to a node") environment.nodeId
    if ← nodeOnline nodeId then
      enqueueRuntimeCheck nodeId (runtimeRequestOfRow environment) taskId
      pure none
    else do
      let _ ← updateRuntimeEnvironmentCheck id "agent_offline"
        "Node Agent offline, cannot check runtime environment"
      throw (.conflict "Node Agent offline, cannot check runtime environment")

def finishRuntimeCheck (id taskId : String) (rounds : Nat) : Handler RuntimeEnvironment := do
  let outcome ← waitForRuntimeCheck taskId rounds
  let now ← nowUnixSecs
  execute (.setRuntimeChecked id outcome now)
  runtimeEnvironment id

/-- `verify_model_file_before_save` up to its wait. -/
def enqueueVerification (nodeId path taskId : String) : Handler Unit := do
  rejectIf (!(← nodeOnline nodeId))
    (.conflict "Node Agent offline, cannot verify model file")
  let now ← nowUnixSecs
  let payloadJson := Json.obj [("path", .str path)]
  inserted (← execute (.insertAgentTask
    { id := taskId, nodeId, kind := .verifyModelFile, payloadJson, now }))

theorem verifyModelFileBeforeSave_eq (nodeId path taskId : String) (rounds : Nat) :
    verifyModelFileBeforeSave nodeId path taskId rounds = (do
      enqueueVerification nodeId path taskId
      waitForModelFileVerification taskId rounds) := by
  unfold verifyModelFileBeforeSave enqueueVerification
  simp only [bind_assoc]

def beginFileCreation (modelId : String) (request : ModelFileRequest) (taskId : String) :
    Handler Unit := do
  checked (validateNonEmpty "path" request.path)
  checked (validatePath "path" request.path)
  ensureModelExists modelId
  ensureNodeExists request.nodeId
  enqueueVerification request.nodeId request.path taskId

def finishFileCreation (modelId : String) (request : ModelFileRequest) (id taskId : String)
    (rounds : Nat) : Handler ModelFileView := do
  let verified ← waitForModelFileVerification taskId rounds
  let now ← nowUnixSecs
  inserted (← execute (.insertModelFile
    { id
      modelId
      nodeId := request.nodeId
      path := request.path
      status := "verified"
      sizeBytes := verified.sizeBytes
      lastVerifiedAt := some verified.verifiedAt
      pathType := verified.pathType
      createdAt := now
      updatedAt := now }))
  modelFile id

def beginFileUpdate (request : ModelFileRequest) (taskId : String) : Handler Unit := do
  checked (validateNonEmpty "path" request.path)
  checked (validatePath "path" request.path)
  ensureNodeExists request.nodeId
  enqueueVerification request.nodeId request.path taskId

def finishFileUpdate (id : String) (request : ModelFileRequest) (taskId : String) (rounds : Nat) :
    Handler ModelFileView := do
  let verified ← waitForModelFileVerification taskId rounds
  let now ← nowUnixSecs
  let found : Bool ← execute (.updateModelFile id request.nodeId request.path verified now)
  if found then modelFile id else throw (.notFound "model file not found")

/-- `cleanup_model_file_trash` up to its wait. -/
def beginCleanup (id taskId : String) : Handler (Option ModelFileTrashView) := do
  let item ← modelFileTrashItem id
  let nodeId ← required (.badRequest "trash item has no node") item.nodeId
  if item.fileDeletedAt.isSome then pure (some item)
  else if ← nodeOnline nodeId then do
    let now ← nowUnixSecs
    let payloadJson := Json.obj [("trash_id", .str id), ("path", .str item.path)]
    inserted (← execute (.insertAgentTask
      { id := taskId, nodeId, kind := .cleanupModelFile, payloadJson, now }))
    execute (.setTrashCleanupPending id taskId now)
    pure none
  else do
    updateTrashFailure id .cleanupFailed "Node Agent offline, cannot clean up file"
    throw (.conflict "Node Agent offline, cannot clean up file")

/-! ### Requests -/

/-- A request that waits from now on. -/
def waits (h : Handler Unit) : Handler (Option Response) := do
  h
  pure none

/-- A request that has ended, unless it waits from now on. -/
def waitsUnless {α : Type} (h : Handler (Option α)) : Handler (Option Response) := do
  let ended ← h
  pure (ended.map fun _ => .other)

/-- A request that has ended. -/
def ended (h : Handler Response) : Handler (Option Response) := do
  let response ← h
  pure (some response)

/-- A request up to its wait, if it comes to one. -/
def Request.begin (deps : External) : Request → Handler (Option Response)
  | startModelInstance id taskId _ =>
      waits (enqueueLocalInstanceTask deps id .startModelInstance "starting" taskId)
  | stopModelInstance id taskId _ =>
      waits (enqueueLocalInstanceTask deps id .stopModelInstance "stopping" taskId)
  | checkModelInstance id taskId http _ => waitsUnless (beginCheck deps id taskId http)
  | testModelInstance id taskId http _ => waitsUnless (beginTest deps id taskId http)
  | createRuntimeEnvironment nodeId request id taskId _ =>
      waitsUnless (beginRuntimeCreation deps nodeId request id taskId)
  | checkRuntimeEnvironment id taskId _ => waitsUnless (beginRuntimeCheck id taskId)
  | createModelFile modelId request _ taskId _ => waits (beginFileCreation modelId request taskId)
  | updateModelFile _ request taskId _ => waits (beginFileUpdate request taskId)
  | cleanupModelFileTrash id taskId _ => waitsUnless (beginCleanup id taskId)
  | request => ended (request.handler deps)

/-- The rest of a request that waits. -/
def Request.finish : Request → Handler Response
  | startModelInstance id taskId rounds | stopModelInstance id taskId rounds
  | checkModelInstance id taskId _ rounds | testModelInstance id taskId _ rounds =>
      answered (waitForModelInstanceTask id taskId rounds)
  | createRuntimeEnvironment nodeId request id taskId rounds =>
      answered (finishRuntimeCreation nodeId request id taskId rounds)
  | checkRuntimeEnvironment id taskId rounds => answered (finishRuntimeCheck id taskId rounds)
  | createModelFile modelId request id taskId rounds =>
      answered (finishFileCreation modelId request id taskId rounds)
  | updateModelFile id request taskId rounds => answered (finishFileUpdate id request taskId rounds)
  | cleanupModelFileTrash id taskId rounds =>
      answered (waitForModelFileCleanup id taskId rounds)
  | _ => pure .other

theorem serve_then_pure {α β : Type} (h : Handler α) (f : α → β) (db : Db) :
    (serve (do let a ← h; pure (f a)) db).2 = (serve h db).2 := by
  cases hserve : serve h db with
  | mk outcome db' =>
      cases outcome with
      | error e => rw [serve_bind_error hserve]
      | ok a => rw [serve_bind_ok hserve, serve_pure]

theorem serve_ended_answered {α : Type} (h : Handler α) (db : Db) :
    (serve (ended (answered h)) db).2 = (serve h db).2 :=
  (serve_then_pure (answered h) some db).trans (serve_then_pure h (fun _ => Response.other) db)

theorem serve_waits_none {h : Handler Unit} {db db' : Db}
    (hserve : serve (waits h) db = (.ok none, db')) : serve h db = (.ok (), db') := by
  obtain ⟨value, db₁, hvalue, hend⟩ := serve_bind_eq_ok hserve
  obtain rfl : db₁ = db' := congrArg Prod.snd hend
  exact hvalue

theorem serve_waitsUnless_none {α : Type} {h : Handler (Option α)} {db db' : Db}
    (hserve : serve (waitsUnless h) db = (.ok none, db')) : serve h db = (.ok none, db') := by
  obtain ⟨value, db₁, hvalue, hend⟩ := serve_bind_eq_ok hserve
  obtain rfl : db₁ = db' := congrArg Prod.snd hend
  cases value with
  | none => exact hvalue
  | some value => cases Except.ok.inj (congrArg Prod.fst hend)

/-- What follows the first part of a request. -/
def endOrFinish {α : Type} (finish : Handler α) : Option α → Handler α
  | some value => pure value
  | none => finish

theorem ended_bind (h finish : Handler Response) : ended h >>= endOrFinish finish = h := by
  unfold ended
  simp only [bind_assoc, pure_bind]
  exact bind_pure h

theorem waits_bind {α : Type} (h : Handler Unit) (rest : Handler α) :
    waits h >>= endOrFinish (answered rest) = answered (do h; rest) := by
  unfold waits answered
  simp only [bind_assoc, pure_bind, endOrFinish]

theorem waitsUnless_bind {α : Type} (h : Handler (Option α)) (rest : Handler α) :
    waitsUnless h >>= endOrFinish (answered rest)
      = answered (h >>= endOrFinish rest) := by
  unfold waitsUnless answered
  simp only [bind_assoc, pure_bind]
  congr 1
  funext begun
  cases begun with
  | none => rfl
  | some value => rfl

theorem createRuntimeEnvironment_eq (deps : External) (nodeId : String)
    (request : RuntimeEnvironmentRequest) (id taskId : String) (rounds : Nat) :
    createRuntimeEnvironment deps nodeId request id taskId rounds
      = beginRuntimeCreation deps nodeId request id taskId
          >>= endOrFinish (finishRuntimeCreation nodeId request id taskId rounds) := by
  have hinsert : createRuntimeEnvironment deps nodeId request id taskId rounds = (do
      checked (validateRuntimeRequest deps request)
      let outcome ← checkNewRuntime nodeId request taskId rounds
      insertNewRuntime nodeId request id outcome) := rfl
  rw [hinsert]
  unfold beginRuntimeCreation finishRuntimeCreation checkNewRuntime
  by_cases hollama : request.backend = "ollama"
  · simp only [if_pos hollama, bind_assoc, pure_bind, bind_pure, endOrFinish]
  · simp only [if_neg hollama, bind_assoc, pure_bind, checkRuntimeEnvironmentBeforeSave_eq,
      endOrFinish]

theorem checkRuntimeEnvironment_eq (id taskId : String) (rounds : Nat) :
    checkRuntimeEnvironment id taskId rounds
      = beginRuntimeCheck id taskId >>= endOrFinish (finishRuntimeCheck id taskId rounds) := by
  unfold checkRuntimeEnvironment beginRuntimeCheck finishRuntimeCheck
  simp only [bind_assoc]
  congr 1
  funext environment
  by_cases hollama : environment.backend = "ollama"
  · simp only [if_pos hollama, bind_assoc, pure_bind, bind_pure, endOrFinish]
  · simp only [if_neg hollama, bind_assoc, checkRuntimeEnvironmentBeforeSave_eq]
    congr 1
    funext nodeId
    congr 1
    funext online
    cases online with
    | true =>
        refine Eq.trans ?_ (bind_assoc _ _ _).symm
        simp only [if_true, pure_bind, endOrFinish]
    | false =>
        refine Eq.trans ?_ (bind_assoc _ _ _).symm
        rfl

theorem cleanupModelFileTrash_eq (id taskId : String) (rounds : Nat) :
    cleanupModelFileTrash id taskId rounds
      = beginCleanup id taskId >>= endOrFinish (waitForModelFileCleanup id taskId rounds) := by
  unfold cleanupModelFileTrash beginCleanup runCleanupTask
  simp only [bind_assoc]
  congr 1
  funext item
  congr 1
  funext nodeId
  by_cases hdeleted : item.fileDeletedAt.isSome = true
  · simp only [if_pos hdeleted, pure_bind, endOrFinish]
  · simp only [if_neg hdeleted, bind_assoc]
    congr 1
    funext online
    cases online with
    | true =>
        refine Eq.trans ?_ (bind_assoc _ _ _).symm
        simp only [if_true, bind_assoc]
        congr 1
    | false =>
        refine Eq.trans ?_ (bind_assoc _ _ _).symm
        rfl

/-- A request is its part up to the wait followed by the rest. -/
theorem handler_eq_begin_finish (deps : External) (request : Request) :
    request.handler deps = request.begin deps >>= endOrFinish request.finish := by
  have hcheck : ∀ (h : Handler (Option ModelInstanceView)) (id taskId : String) (rounds : Nat),
      answered (h >>= finishCheck id taskId rounds)
        = waitsUnless h >>= endOrFinish (answered (waitForModelInstanceTask id taskId rounds)) := by
    intro h id taskId rounds
    rw [waitsUnless_bind]
    congr 2
    funext begun
    cases begun with
    | none => rfl
    | some view => rfl
  cases request
  case startModelInstance id taskId rounds => exact (waits_bind _ _).symm
  case stopModelInstance id taskId rounds => exact (waits_bind _ _).symm
  case checkModelInstance id taskId http rounds => exact hcheck _ id taskId rounds
  case testModelInstance id taskId http rounds => exact hcheck _ id taskId rounds
  case createRuntimeEnvironment nodeId request id taskId rounds =>
      rw [Request.handler, createRuntimeEnvironment_eq]
      exact (waitsUnless_bind _ _).symm
  case checkRuntimeEnvironment id taskId rounds =>
      rw [Request.handler, checkRuntimeEnvironment_eq]
      exact (waitsUnless_bind _ _).symm
  case createModelFile modelId request id taskId rounds =>
      refine Eq.trans ?_ (waits_bind _ _).symm
      rw [Request.handler, createModelFile, beginFileCreation, finishFileCreation]
      simp only [verifyModelFileBeforeSave_eq, bind_assoc]
  case updateModelFile id request taskId rounds =>
      refine Eq.trans ?_ (waits_bind _ _).symm
      rw [Request.handler, updateModelFile, beginFileUpdate, finishFileUpdate]
      simp only [verifyModelFileBeforeSave_eq, bind_assoc]
  case cleanupModelFileTrash id taskId rounds =>
      rw [Request.handler, cleanupModelFileTrash_eq]
      exact (waitsUnless_bind _ _).symm
  all_goals exact (ended_bind _ _).symm

/-! ### All requests, and those on models -/

/-- `create_model` up to its wait. -/
def beginModelCreation (deps : External) (request : ModelRequest) (taskId : String) :
    Handler Unit := do
  let initialFile ← initialModelFile deps request
  enqueueVerification initialFile.nodeId initialFile.path taskId

/-- The rows of a new model, whose first file has been verified. -/
def insertNewModel (request : ModelRequest) (initialFile : ModelFileRequest) (id fileId : String)
    (verified : VerifiedModelFile) (db : Db) : Db :=
  createModelRows { id, name := request.name }
    { id := fileId
      modelId := id
      nodeId := initialFile.nodeId
      path := initialFile.path
      status := "verified"
      sizeBytes := verified.sizeBytes
      lastVerifiedAt := some verified.verifiedAt
      pathType := verified.pathType
      createdAt := db.clock
      updatedAt := db.clock } db

inductive PlatformRequest where
  | plain (request : Request)
  | createModel (request : ModelRequest) (id fileId taskId : String) (rounds : Nat)
  | deleteModel (id : String) (trashId : String → String)

/-- Whether a request waits from now on, and the database that its first part leaves. -/
def PlatformRequest.begin (deps : External) : PlatformRequest → Db → Bool × Db
  | plain request, db =>
      match serve (request.begin deps) db with
      | (.ok none, db') => (true, db')
      | (_, db') => (false, db')
  | createModel request _ _ taskId _, db =>
      match serve (beginModelCreation deps request taskId) db with
      | (.ok _, db') => (true, db')
      | (.error _, db') => (false, db')
  | deleteModel id trashId, db =>
      match serve (trashModel id trashId) db with
      | (.ok _, db') => (false, { db' with models := deleteModelRow db'.models id db'.clock })
      | (.error _, db') => (false, db')

def PlatformRequest.finish : PlatformRequest → Db → Db
  | plain request, db => (serve request.finish db).2
  | createModel request id fileId taskId rounds, db =>
      match serve (waitForModelFileVerification taskId rounds) db with
      | (.ok verified, db') =>
          match request.initialFile with
          | none => db'
          | some initialFile => insertNewModel request initialFile id fileId verified db'
      | (.error _, db') => db'
  | deleteModel .., db => db

structure Platform where
  db : Db
  waiting : List PlatformRequest := []

inductive PlatformOperation where
  | serve (request : PlatformRequest)
  | resume (index : Nat)
  | act (action : Environment)

def PlatformOperation.perform (deps : External) (s : Platform) : PlatformOperation → Platform
  | serve request =>
      { db := (request.begin deps s.db).2
        waiting :=
          if (request.begin deps s.db).1 then request :: s.waiting else s.waiting }
  | resume index =>
      match s.waiting[index]? with
      | none => s
      | some request =>
          { db := request.finish s.db
            waiting := s.waiting.eraseIdx index }
  | act action => { s with db := action.act s.db }

/-! ### What the writes of an operation respect -/

/-- The kinds of writes that each request may execute. -/
def PlatformRequest.writes : PlatformRequest → List Write
  | plain request => request.writes
  | createModel .. => .insertModelFile :: savedFileWrites
  | deleteModel .. => .insertTrash :: fileReadWrites

section Relations

variable {R : Db → Db → Prop} {writes : List Write} {α : Type}

/-- A relation between what was stored before and after that writes of these kinds do not leave. -/
structure Respected (R : Db → Db → Prop) (writes : List Write) : Prop where
  refl : ∀ db, R db db
  trans : ∀ db db' db'', R db db' → R db' db'' → R db db''
  exec : ∀ (stmt : Stmt) db, stmt.Among writes → R db (stmt.exec db).2
  models : ∀ (db : Db) models, R db { db with models }

theorem Respected.mono {writes' : List Write} (hsub : writes' ⊆ writes) (h : Respected R writes) :
    Respected R writes' :=
  { h with exec := fun stmt db hamong => h.exec stmt db fun w hw => hsub (hamong w hw) }

theorem Uses.respects {h : Handler α} (huses : Uses writes h) (hR : Respected R writes) (db : Db) :
    R db (serve h db).2 :=
  Program.Performs.run_rel hR.refl hR.trans hR.exec huses db

/-- What follows one statement relates what the statement leaves to the end. -/
theorem Respected.after_execute (hR : Respected R writes) {stmt : Stmt} {f : stmt.Answer → Handler α}
    (hrest : ∀ answer, Uses writes (f answer)) (db : Db) :
    R (stmt.exec db).2 (serve (execute stmt >>= f) db).2 := by
  rw [serve_bind_ok (serve_execute stmt db)]
  exact (hrest _).respects hR _

theorem respected_createModelRows (hR : Respected R writes) (hinsert : .insertModelFile ∈ writes)
    (model : Model) (file : ModelFile) (db : Db) : R db (createModelRows model file db) := by
  have hexec := hR.exec (.insertModelFile file)
  unfold createModelRows
  split
  · exact hR.refl db
  · rename_i models _
    dsimp only
    split
    · refine hR.trans db { db with models } _ (hR.models db models) (hexec _ fun w hw => ?_)
      rw [← Option.some.inj hw]
      exact hinsert
    · exact hR.refl db

theorem uses_begin (deps : External) (request : Request) :
    Uses request.writes (request.begin deps) := by
  have hall := uses_handler deps request
  rw [handler_eq_begin_finish] at hall
  exact Program.Performs.of_bind hall

theorem uses_enqueueVerification (htask : plainTaskWrites ⊆ writes) (nodeId path taskId : String) :
    Uses writes (enqueueVerification nodeId path taskId) := by
  refine uses_bind (uses_nodeOnline nodeId) fun online => uses_bind (uses_rejectIf _ _) fun _ => ?_
  refine uses_bind uses_nowUnixSecs fun now => ?_
  refine uses_bind (uses_execute rfl (htask (by decide))) fun accepted => uses_inserted accepted

theorem uses_waitForRuntimeCheck (hmark : .markTaskTimedOut ∈ writes) (taskId : String)
    (rounds : Nat) : Uses writes (waitForRuntimeCheck taskId rounds) := by
  refine uses_waitForTask (fun task outcome houtcome => ?_) (uses_plainDeadline hmark taskId _) rounds
  unfold runtimeCheckEnded at houtcome
  dsimp only at houtcome
  split at houtcome
  · rw [← Option.some.inj houtcome]
    split
    · exact uses_throw _
    · exact uses_bind uses_nowUnixSecs fun now => uses_pure _
  · rw [← Option.some.inj houtcome]
    exact uses_throw _
  · rw [← Option.some.inj houtcome]
    exact uses_throw _
  · exact nomatch houtcome

theorem uses_waitForModelFileVerification (hmark : .markTaskTimedOut ∈ writes) (taskId : String)
    (rounds : Nat) : Uses writes (waitForModelFileVerification taskId rounds) := by
  refine uses_waitForTask (fun task outcome houtcome => ?_) (uses_plainDeadline hmark taskId _) rounds
  unfold verificationEnded at houtcome
  split at houtcome
  · rw [← Option.some.inj houtcome]
    dsimp only
    split
    · exact uses_throw _
    · exact uses_bind uses_nowUnixSecs fun now => uses_pure _
  · rw [← Option.some.inj houtcome]
    exact uses_throw _
  · rw [← Option.some.inj houtcome]
    exact uses_throw _
  · exact nomatch houtcome

theorem uses_insertNewRuntime (hinsert : .insertRuntime ∈ writes) (nodeId : String)
    (request : RuntimeEnvironmentRequest) (id : String) (outcome : CheckedRuntimeEnvironment) :
    Uses writes (insertNewRuntime nodeId request id outcome) := by
  refine uses_bind uses_nowUnixSecs fun now => uses_bind (uses_execute rfl hinsert) fun accepted => ?_
  exact uses_bind (uses_inserted accepted) fun _ => uses_runtimeEnvironment id

theorem uses_finish (request : Request) : Uses request.writes request.finish := by
  have hwait : ∀ id taskId rounds,
      Uses instanceTaskWrites (waitForModelInstanceTask id taskId rounds) :=
    uses_waitForModelInstanceTask (by decide)
  cases request
  all_goals try exact uses_pure _
  all_goals simp only [Request.writes]
  case startModelInstance => exact uses_answered (hwait _ _ _)
  case stopModelInstance => exact uses_answered (hwait _ _ _)
  case checkModelInstance => exact uses_answered (hwait _ _ _)
  case testModelInstance => exact uses_answered (hwait _ _ _)
  case createRuntimeEnvironment =>
      refine uses_answered (uses_bind (uses_waitForRuntimeCheck (by decide) _ _) fun outcome => ?_)
      exact uses_insertNewRuntime (by decide) _ _ _ outcome
  case checkRuntimeEnvironment id taskId rounds =>
      refine uses_answered (uses_bind (uses_waitForRuntimeCheck (by decide) _ _) fun outcome => ?_)
      refine uses_bind uses_nowUnixSecs fun now => uses_bind (uses_execute rfl (by decide)) fun _ => ?_
      exact uses_runtimeEnvironment id
  case createModelFile modelId request id taskId rounds =>
      refine uses_answered (uses_bind (uses_waitForModelFileVerification (by decide) _ _) ?_)
      intro verified
      refine uses_bind uses_nowUnixSecs fun now => uses_bind (uses_execute rfl (by decide)) fun _ => ?_
      exact uses_bind (uses_inserted _) fun _ => uses_modelFile (by decide) id
  case updateModelFile id request taskId rounds =>
      refine uses_answered (uses_bind (uses_waitForModelFileVerification (by decide) _ _) ?_)
      intro verified
      refine uses_bind uses_nowUnixSecs fun now => uses_bind (uses_execute rfl (by decide)) fun _ => ?_
      split
      · exact uses_modelFile (by decide) id
      · exact uses_throw _
  case cleanupModelFileTrash =>
      exact uses_answered (uses_waitForModelFileCleanup (by decide) _ _ _)

theorem uses_initialModelFile (deps : External) (request : ModelRequest) :
    Uses writes (initialModelFile deps request) := by
  refine uses_bind (uses_checked _) fun _ => uses_bind (uses_required _ _) fun initialFile => ?_
  refine uses_bind (uses_checked _) fun _ => uses_bind (uses_checked _) fun _ => ?_
  exact uses_bind (uses_ensureNodeExists _) fun _ => uses_pure _

theorem uses_trashModelFiles (hread : fileReadWrites ⊆ writes) (hinsert : .insertTrash ∈ writes)
    (trashId : String → String) (fileIds : List String) :
    Uses writes (trashModelFiles trashId fileIds) := by
  induction fileIds with
  | nil => exact uses_pure ()
  | cons fileId fileIds ih =>
      exact uses_bind (uses_ensureModelFileTrash hread hinsert _ _ _ _) fun _ => ih

theorem uses_trashModel (hread : fileReadWrites ⊆ writes) (hinsert : .insertTrash ∈ writes)
    (id : String) (trashId : String → String) : Uses writes (trashModel id trashId) := by
  refine uses_bind (uses_query _) fun protectedCount => uses_bind (uses_rejectIf _ _) fun _ => ?_
  refine uses_bind (uses_query _) fun found => uses_bind (uses_rejectIf _ _) fun _ => ?_
  exact uses_bind (uses_query _) fun fileIds => uses_trashModelFiles hread hinsert trashId fileIds

theorem db_begin_plain (deps : External) (request : Request) (db : Db) :
    ((PlatformRequest.plain request).begin deps db).2 = (serve (request.begin deps) db).2 := by
  simp only [PlatformRequest.begin]
  split <;> rename_i hserve <;> rw [hserve]

theorem begin_plain_eq_true {deps : External} {request : Request} {db : Db}
    (h : ((PlatformRequest.plain request).begin deps db).1 = true) :
    serve (request.begin deps) db
      = (.ok none, ((PlatformRequest.plain request).begin deps db).2) := by
  have hdb := db_begin_plain deps request db
  cases hserve : serve (request.begin deps) db with
  | mk outcome db' =>
      rw [hserve] at hdb
      rw [hdb]
      dsimp only [PlatformRequest.begin] at h
      rw [hserve] at h
      cases outcome with
      | error e => cases h
      | ok response =>
          cases response with
          | none => rfl
          | some response => cases h

theorem respected_begin (deps : External) (request : PlatformRequest)
    (hR : Respected R request.writes) (db : Db) : R db (request.begin deps db).2 := by
  cases request with
  | plain request =>
      rw [db_begin_plain]
      exact (uses_begin deps request).respects hR db
  | createModel request id fileId taskId rounds =>
      have huses : Uses (PlatformRequest.createModel request id fileId taskId rounds).writes
          (beginModelCreation deps request taskId) :=
        uses_bind (uses_initialModelFile deps request) fun initialFile =>
          uses_enqueueVerification (by simp only [PlatformRequest.writes]; decide) _ _ _
      have hrel := huses.respects hR db
      simp only [PlatformRequest.begin]
      split <;> rename_i hserve <;> rw [hserve] at hrel <;> exact hrel
  | deleteModel id trashId =>
      have huses : Uses (PlatformRequest.deleteModel id trashId).writes (trashModel id trashId) :=
        uses_trashModel (by simp only [PlatformRequest.writes]; decide)
          (by simp only [PlatformRequest.writes]; decide) id trashId
      have hrel := huses.respects hR db
      simp only [PlatformRequest.begin]
      split <;> rename_i hserve <;> rw [hserve] at hrel
      · exact hR.trans _ _ _ hrel (hR.models _ _)
      · exact hrel

theorem respected_finish (request : PlatformRequest) (hR : Respected R request.writes) (db : Db) :
    R db (request.finish db) := by
  cases request with
  | plain request => exact (uses_finish request).respects hR db
  | createModel request id fileId taskId rounds =>
      have huses : Uses (PlatformRequest.createModel request id fileId taskId rounds).writes
          (waitForModelFileVerification taskId rounds) :=
        uses_waitForModelFileVerification (by simp only [PlatformRequest.writes]; decide) _ _
      have hrel := huses.respects hR db
      simp only [PlatformRequest.finish]
      split <;> rename_i hserve <;> rw [hserve] at hrel
      · cases request.initialFile with
        | none => exact hrel
        | some initialFile =>
            exact hR.trans _ _ _ hrel (respected_createModelRows hR
              (by simp only [PlatformRequest.writes]; decide) _ _ _)
      · exact hrel
  | deleteModel id trashId => exact hR.refl db

end Relations

/-! ### Tasks go on existing -/

/-- No task is removed, and what a task carries, and to where, does not change. -/
def TasksKept (db db' : Db) : Prop :=
  ∀ id task, db.agentTasks.find? id = some task → ∃ task', db'.agentTasks.find? id = some task' ∧
    task'.nodeId = task.nodeId ∧ task'.kind = task.kind ∧ task'.payloadJson = task.payloadJson

theorem respected_tasksKept (writes : List Write) : Respected TasksKept writes where
  refl _ _ task htask := ⟨task, htask, rfl, rfl, rfl⟩
  trans db db' db'' h h' id task htask := by
    obtain ⟨task', htask', hnode, hkind, hpayload⟩ := h id task htask
    obtain ⟨task'', htask'', hnode', hkind', hpayload'⟩ := h' id task' htask'
    exact ⟨task'', htask'', hnode'.trans hnode, hkind'.trans hkind, hpayload'.trans hpayload⟩
  exec stmt _ _ _ task htask :=
    ⟨stmt.onTask task, find?_exec_of_some stmt htask, onTask_nodeId stmt task,
      onTask_kind stmt task, onTask_payloadJson stmt task⟩
  models _ _ _ task htask := ⟨task, htask, rfl, rfl, rfl⟩

/-! ### Waiting -/

/-- A wait that is served in one go looks at the task as it is, and comes to its deadline unless the
task has ended. -/
theorem serve_waitForTask {α : Type} {taskId : String} {outcome : AgentTask → Option (Handler α)}
    {deadline : Handler α} {db : Db} {task : AgentTask} (htask : db.agentTasks.find? taskId = some task)
    (rounds : Nat) :
    serve (waitForTask taskId outcome deadline rounds) db
      = serve ((outcome task).getD deadline) db := by
  have hlook : serve (query fun db => db.agentTasks.find? taskId) db = (.ok (some task), db) := by
    rw [serve_query, htask]
  induction rounds with
  | zero =>
      rw [waitForTask, serve_bind_ok hlook, serve_bind_ok (serve_required_some _ task db)]
      cases outcome task <;> rfl
  | succ rounds ih =>
      rw [waitForTask, serve_bind_ok hlook, serve_bind_ok (serve_required_some _ task db)]
      cases houtcome : outcome task with
      | none =>
          rw [houtcome] at ih
          exact ih
      | some ended => rfl

theorem serve_waitForTask_of_none {α : Type} {taskId : String}
    {outcome : AgentTask → Option (Handler α)} {deadline : Handler α} {db : Db}
    (htask : db.agentTasks.find? taskId = none) (rounds : Nat) :
    serve (waitForTask taskId outcome deadline rounds) db = (.error rowNotFound, db) := by
  have hlook : serve (query fun db => db.agentTasks.find? taskId) db = (.ok none, db) := by
    rw [serve_query, htask]
  cases rounds with
  | zero => rw [waitForTask, serve_bind_ok hlook, serve_bind_error (serve_required_none _ db)]
  | succ rounds => rw [waitForTask, serve_bind_ok hlook, serve_bind_error (serve_required_none _ db)]

end LightAI.Server
