import LightAI.Server.Requests

/-!
# Which writes a request may execute

Every handler reads freely. Its writes are of a few kinds, whatever the database answers, and what a
kind of write cannot break no request without that kind can.
-/

namespace LightAI.Server

inductive Write where
  | insertAgentTask
  | enqueueInstanceTask
  | enqueueFileVerification
  | claimAgentTask
  | markTaskTimedOut
  | recordResult
  | setFileVerifying
  | setFileVerifyTimeout
  | expireModelFile
  | insertModelFile
  | updateModelFile
  | deleteModelFile
  | insertTrash
  | setTrashCleanupRunning
  | setTrashCleanupPending
  | updateTrashFailure
  | deleteTrash
  | insertModelInstance
  | updateInstanceCheck
  | updateLocalInstance
  | updateExternalInstance
  | deleteModelInstance
  | setInstanceLogTail
  | insertRuntime
  | updateRuntime
  | setRuntimeChecked
  | updateRuntimeCheck
  | deleteRuntime
  | recordHeartbeat
  deriving DecidableEq

/-- The kind of a write. A read has none. -/
def Stmt.write : Stmt → Option Write
  | select _ => none
  | insertAgentTask .. => some .insertAgentTask
  | enqueueInstanceTask .. => some .enqueueInstanceTask
  | enqueueFileVerification .. => some .enqueueFileVerification
  | claimAgentTask .. => some .claimAgentTask
  | markTaskTimedOut .. => some .markTaskTimedOut
  | recordResult .. => some .recordResult
  | setFileVerifying .. => some .setFileVerifying
  | setFileVerifyTimeout .. => some .setFileVerifyTimeout
  | expireModelFile .. => some .expireModelFile
  | insertModelFile .. => some .insertModelFile
  | updateModelFile .. => some .updateModelFile
  | deleteModelFile .. => some .deleteModelFile
  | insertTrash .. => some .insertTrash
  | setTrashCleanupRunning .. => some .setTrashCleanupRunning
  | setTrashCleanupPending .. => some .setTrashCleanupPending
  | updateTrashFailure .. => some .updateTrashFailure
  | deleteTrash .. => some .deleteTrash
  | insertModelInstance .. => some .insertModelInstance
  | updateInstanceCheck .. => some .updateInstanceCheck
  | updateLocalInstance .. => some .updateLocalInstance
  | updateExternalInstance .. => some .updateExternalInstance
  | deleteModelInstance .. => some .deleteModelInstance
  | setInstanceLogTail .. => some .setInstanceLogTail
  | insertRuntime .. => some .insertRuntime
  | updateRuntime .. => some .updateRuntime
  | setRuntimeChecked .. => some .setRuntimeChecked
  | updateRuntimeCheck .. => some .updateRuntimeCheck
  | deleteRuntime .. => some .deleteRuntime
  | recordHeartbeat .. => some .recordHeartbeat

/-- A read, or a write of one of the kinds. -/
def Stmt.Among (writes : List Write) (stmt : Stmt) : Prop := ∀ w, stmt.write = some w → w ∈ writes

/-- Whatever the database answers, the handler executes only writes of these kinds. -/
def Uses {α : Type} (writes : List Write) (h : Handler α) : Prop :=
  h.run.Performs (Stmt.Among writes)

section Rules

variable {writes : List Write} {α β : Type}

theorem Uses.mono {writes' : List Write} (hsub : writes ⊆ writes') {h : Handler α}
    (huses : Uses writes h) : Uses writes' h :=
  Program.Performs.mono (fun _ hamong w hw => hsub (hamong w hw)) huses

theorem uses_pure (a : α) : Uses writes (pure a) := trivial

theorem uses_throw (e : DomainError) : Uses writes (throw e : Handler α) := trivial

theorem uses_bind {h : Handler α} {f : α → Handler β} (hh : Uses writes h)
    (hf : ∀ a, Uses writes (f a)) : Uses writes (h >>= f) := by
  refine Program.Performs.bind hh fun result => ?_
  cases result with
  | ok a => exact hf a
  | error e => trivial

theorem uses_execute {stmt : Stmt} {w : Write} (hkind : stmt.write = some w) (hw : w ∈ writes) :
    Uses writes (execute stmt) := by
  refine ⟨fun w' hw' => ?_, fun _ => trivial⟩
  rw [hkind] at hw'
  rwa [← Option.some.inj hw']

theorem uses_query (q : Db → β) : Uses writes (query q) := by
  refine ⟨fun w hw => ?_, fun _ => trivial⟩
  exact nomatch hw

theorem uses_nowUnixSecs : Uses writes nowUnixSecs := uses_query _

theorem uses_required (e : DomainError) (value : Option β) : Uses writes (required e value) := by
  cases value <;> trivial

theorem uses_checked (value : Except DomainError β) : Uses writes (checked value) := by
  cases value <;> trivial

theorem uses_rejectIf (condition : Bool) (e : DomainError) : Uses writes (rejectIf condition e) := by
  cases condition <;> trivial

theorem uses_inserted (accepted : Bool) : Uses writes (inserted accepted) := by
  cases accepted <;> trivial

end Rules

/-! ### Reads -/

section Reads

variable {writes : List Write}

theorem uses_nodeOnline (nodeId : String) : Uses writes (nodeOnline nodeId) := by
  refine uses_bind (uses_query _) fun lastHeartbeatAt => ?_
  cases lastHeartbeatAt with
  | none => exact uses_pure false
  | some lastHeartbeatAt => exact uses_bind uses_nowUnixSecs fun now => uses_pure _

/-- A read that decides whether the request goes on. -/
theorem uses_guard {q : Db → Bool} (e : DomainError) :
    Uses writes (do let found ← query q; if found then pure () else throw e : Handler Unit) := by
  refine uses_bind (uses_query q) fun found => ?_
  split
  · exact uses_pure ()
  · exact uses_throw e

theorem uses_ensureModelExists (modelId : String) : Uses writes (ensureModelExists modelId) :=
  uses_guard _

theorem uses_ensureNodeExists (nodeId : String) : Uses writes (ensureNodeExists nodeId) :=
  uses_guard _

theorem uses_ensureNodeOnline (nodeId : String) : Uses writes (ensureNodeOnline nodeId) := by
  refine uses_bind (uses_nodeOnline nodeId) fun online => ?_
  split
  · exact uses_pure ()
  · exact uses_throw _

theorem uses_modelInstance (id : String) : Uses writes (modelInstance id) := by
  refine uses_bind (uses_query _) fun row => uses_bind (uses_required _ row) fun row => ?_
  exact uses_bind uses_nowUnixSecs fun now => uses_pure _

theorem uses_runtimeEnvironment (id : String) : Uses writes (runtimeEnvironment id) :=
  uses_bind (uses_query _) fun row => uses_required _ row

theorem uses_modelFileTrashItem (id : String) : Uses writes (modelFileTrashItem id) :=
  uses_bind (uses_query _) fun row => uses_required _ row

theorem uses_effectiveAgentConfig (nodeId : String) : Uses writes (effectiveAgentConfig nodeId) := by
  refine uses_bind uses_nowUnixSecs fun now => uses_bind (uses_query _) fun global => ?_
  refine uses_bind (uses_query _) fun node => uses_bind (uses_query _) fun globalVersion => ?_
  exact uses_bind (uses_query _) fun nodeVersion => uses_pure _

theorem uses_nextQueuedAgentTask (nodeId : String) : Uses writes (nextQueuedAgentTask nodeId) :=
  uses_query _

theorem uses_ollamaRuntimeConfigCheck : Uses writes ollamaRuntimeConfigCheck :=
  uses_bind uses_nowUnixSecs fun _ => uses_pure _

theorem uses_verifiedModelFileForInstance (modelFileId : String) :
    Uses writes (verifiedModelFileForInstance modelFileId) := by
  refine uses_bind (uses_query _) fun row => uses_bind (uses_required _ row) fun file => ?_
  exact uses_bind (uses_rejectIf _ _) fun _ => uses_pure _

theorem uses_localInstanceModel (request : ModelInstanceCreateRequest) (nodeId : String)
    (env : RuntimeEnvironment) (params : Json) :
    Uses writes (localInstanceModel request nodeId env params) := by
  unfold localInstanceModel
  split
  · exact uses_bind (uses_checked _) fun _ => uses_pure _
  · refine uses_bind (uses_required _ _) fun modelFileId => ?_
    refine uses_bind (uses_verifiedModelFileForInstance modelFileId) fun file => ?_
    exact uses_bind (uses_rejectIf _ _) fun _ => uses_pure _

theorem uses_ensureInstanceModel (modelId : Option String) :
    Uses writes (ensureInstanceModel modelId) := by
  cases modelId with
  | none => exact uses_pure ()
  | some modelId => exact uses_bind (uses_query _) fun found => uses_rejectIf _ _

theorem uses_instanceTaskFile (row : ModelInstanceView) (env : RuntimeEnvironment) :
    Uses writes (instanceTaskFile row env) := by
  unfold instanceTaskFile
  split
  · exact uses_pure none
  · refine uses_bind (uses_required _ _) fun modelFileId => ?_
    exact uses_bind (uses_verifiedModelFileForInstance modelFileId) fun file => uses_pure _

theorem uses_ensureNodeCanRunGatewayTask (nodeId : String) :
    Uses writes (ensureNodeCanRunGatewayTask nodeId) := by
  refine uses_bind (uses_ensureNodeExists nodeId) fun _ => ?_
  refine uses_bind (uses_nodeOnline nodeId) fun online => ?_
  split
  · exact uses_pure ()
  · exact uses_throw _

end Reads

/-! ### Writes -/

section Writes

variable {writes : List Write}

theorem uses_markTaskTimedOut (hmark : .markTaskTimedOut ∈ writes) (taskId : String) :
    Uses writes (markTaskTimedOut taskId) :=
  uses_bind uses_nowUnixSecs fun _ => uses_execute rfl hmark

theorem uses_updateInstanceCheck (hcheck : .updateInstanceCheck ∈ writes) (id status : String)
    (error : Option String) : Uses writes (updateInstanceCheck id status error) := by
  refine uses_bind uses_nowUnixSecs fun now => ?_
  exact uses_bind (uses_execute rfl hcheck) fun _ => uses_modelInstance id

theorem uses_updateTrashFailure (hfailure : .updateTrashFailure ∈ writes) (trashId : String)
    (status : TrashStatus) (message : String) :
    Uses writes (updateTrashFailure trashId status message) :=
  uses_bind uses_nowUnixSecs fun _ => uses_execute rfl hfailure

/-- The writes of a sweep. -/
def sweepWrites : List Write :=
  [.markTaskTimedOut, .setFileVerifyTimeout, .updateTrashFailure, .updateInstanceCheck]

theorem uses_applyTimeout (hsweep : sweepWrites ⊆ writes) (task : AgentTask) (now : Int) :
    Uses writes (applyTimeout task now) := by
  have hfile : Write.setFileVerifyTimeout ∈ writes := hsweep (by decide)
  have htrash := uses_updateTrashFailure (hsweep (by decide))
  have hinstance := uses_updateInstanceCheck (hsweep (by decide))
  unfold applyTimeout
  split
  · split
    · exact uses_pure ()
    · exact uses_execute rfl hfile
  · split
    · exact uses_pure ()
    · exact htrash _ _ _
  all_goals first
    | exact uses_pure ()
    | (split
       · exact uses_pure ()
       · exact uses_bind (hinstance _ _ _) fun _ => uses_pure ())

theorem uses_timeOutTasks (hsweep : sweepWrites ⊆ writes) (now : Int) (tasks : List AgentTask) :
    Uses writes (timeOutTasks now tasks) := by
  induction tasks with
  | nil => exact uses_pure ()
  | cons task tasks ih =>
      refine uses_bind (uses_markTaskTimedOut (hsweep (by decide)) task.id) fun _ => ?_
      exact uses_bind (uses_applyTimeout hsweep task now) fun _ => ih

theorem uses_markTimedOutTasks (hsweep : sweepWrites ⊆ writes) : Uses writes markTimedOutTasks := by
  refine uses_bind uses_nowUnixSecs fun now => ?_
  exact uses_bind (uses_query _) fun rows => uses_timeOutTasks hsweep now rows

theorem uses_waitForTask {α : Type} {taskId : String} {ended : AgentTask → Option (Handler α)}
    {deadline : Handler α} (hended : ∀ task outcome, ended task = some outcome → Uses writes outcome)
    (hdeadline : Uses writes deadline) (rounds : Nat) :
    Uses writes (waitForTask taskId ended deadline rounds) := by
  induction rounds with
  | zero =>
      refine uses_bind (uses_query _) fun row => uses_bind (uses_required _ row) fun task => ?_
      split
      · exact hended task _ ‹_›
      · exact hdeadline
  | succ rounds ih =>
      refine uses_bind (uses_query _) fun row => uses_bind (uses_required _ row) fun task => ?_
      split
      · exact hended task _ ‹_›
      · exact ih

/-- The deadline of a request whose timeout changes nothing but the task. -/
theorem uses_plainDeadline {α : Type} (hmark : .markTaskTimedOut ∈ writes) (taskId : String)
    (error : DomainError) :
    Uses writes (do markTaskTimedOut taskId; throw error : Handler α) :=
  uses_bind (uses_markTaskTimedOut hmark taskId) fun _ => uses_throw error

end Writes

/-! ### Instances and runtime environments -/

section Instances

variable {writes : List Write}

theorem uses_createModelInstance (hinsert : .insertModelInstance ∈ writes) (deps : External)
    (request : ModelInstanceCreateRequest) (id : String) :
    Uses writes (createModelInstance deps request id) := by
  have hrow : ∀ row, Uses writes (execute (.insertModelInstance row)) :=
    fun row => uses_execute rfl hinsert
  have hlocal : Uses writes (createLocalModelInstance deps request id) := by
    refine uses_bind (uses_checked _) fun _ => uses_bind (uses_checked _) fun params => ?_
    refine uses_bind (uses_required _ _) fun nodeId => uses_bind (uses_required _ _) fun envId => ?_
    refine uses_bind (uses_runtimeEnvironment envId) fun env => ?_
    refine uses_bind (uses_rejectIf _ _) fun _ => uses_bind (uses_rejectIf _ _) fun _ => ?_
    refine uses_bind (uses_localInstanceModel _ _ _ _) fun model => ?_
    refine uses_bind uses_nowUnixSecs fun now => uses_bind (hrow _) fun accepted => ?_
    exact uses_bind (uses_inserted accepted) fun _ => uses_modelInstance id
  have hexternal : ∀ deployType,
      Uses writes (createExternalModelInstance deps request deployType id) := by
    intro deployType
    refine uses_bind (uses_checked _) fun _ => uses_bind (uses_checked _) fun _ => ?_
    refine uses_bind (uses_checked _) fun _ => uses_bind (uses_checked _) fun _ => ?_
    refine uses_bind (uses_checked _) fun _ => uses_bind (uses_ensureInstanceModel _) fun _ => ?_
    refine uses_bind uses_nowUnixSecs fun now => uses_bind (hrow _) fun accepted => ?_
    exact uses_bind (uses_inserted accepted) fun _ => uses_modelInstance id
  refine uses_bind (uses_checked _) fun _ => uses_bind (uses_checked _) fun _ => ?_
  refine uses_bind (uses_checked _) fun _ => ?_
  split
  · exact hlocal
  · exact hexternal _

theorem uses_updateModelInstance (hlocal : .updateLocalInstance ∈ writes)
    (hexternal : .updateExternalInstance ∈ writes) (deps : External) (id : String)
    (request : ModelInstanceUpdateRequest) : Uses writes (updateModelInstance deps id request) := by
  refine uses_bind (uses_modelInstance id) fun current => ?_
  split
  · exact uses_throw _
  split
  · refine uses_bind (uses_checked _) fun _ => uses_bind (uses_checked _) fun _ => ?_
    refine uses_bind uses_nowUnixSecs fun now => ?_
    exact uses_bind (uses_execute rfl hlocal) fun _ => uses_modelInstance id
  · refine uses_bind (uses_checked _) fun _ => uses_bind (uses_checked _) fun _ => ?_
    refine uses_bind (uses_checked _) fun _ => uses_bind (uses_checked _) fun _ => ?_
    refine uses_bind (uses_checked _) fun _ => uses_bind (uses_checked _) fun _ => ?_
    refine uses_bind (uses_checked _) fun _ => uses_bind uses_nowUnixSecs fun now => ?_
    exact uses_bind (uses_execute rfl hexternal) fun _ => uses_modelInstance id

theorem uses_deleteModelInstance (hdelete : .deleteModelInstance ∈ writes) (id : String) :
    Uses writes (deleteModelInstance id) := by
  refine uses_bind (uses_modelInstance id) fun row => ?_
  split
  · exact uses_throw _
  · refine uses_bind (uses_execute rfl hdelete) fun found => ?_
    split
    · exact uses_pure ()
    · exact uses_throw _

theorem uses_enqueueLocalInstanceTask (henqueue : .enqueueInstanceTask ∈ writes) (deps : External)
    (id : String) (kind : TaskKind) (pendingStatus taskId : String) :
    Uses writes (enqueueLocalInstanceTask deps id kind pendingStatus taskId) := by
  refine uses_bind (uses_modelInstance id) fun row => uses_bind (uses_rejectIf _ _) fun _ => ?_
  refine uses_bind (uses_required _ _) fun nodeId => uses_bind (uses_nodeOnline nodeId) fun _ => ?_
  refine uses_bind (uses_rejectIf _ _) fun _ => uses_bind (uses_required _ _) fun envId => ?_
  refine uses_bind (uses_runtimeEnvironment envId) fun env => ?_
  refine uses_bind (uses_rejectIf _ _) fun _ => uses_bind (uses_checked _) fun params => ?_
  refine uses_bind uses_nowUnixSecs fun now => uses_bind (uses_instanceTaskFile row env) fun _ => ?_
  exact uses_bind (uses_execute rfl henqueue) fun accepted => uses_inserted accepted

/-- The writes of the wait for an instance task. -/
def instanceWaitWrites : List Write := [.markTaskTimedOut, .updateInstanceCheck]

theorem uses_waitForModelInstanceTask (hwait : instanceWaitWrites ⊆ writes) (id taskId : String)
    (rounds : Nat) : Uses writes (waitForModelInstanceTask id taskId rounds) := by
  refine uses_waitForTask (fun task outcome houtcome => ?_) ?_ rounds
  · unfold instanceTaskEnded at houtcome
    split at houtcome
    · rw [← Option.some.inj houtcome]
      exact uses_modelInstance id
    · rw [← Option.some.inj houtcome]
      exact uses_throw _
    · rw [← Option.some.inj houtcome]
      exact uses_throw _
    · exact nomatch houtcome
  · refine uses_bind (uses_markTaskTimedOut (hwait (by decide)) taskId) fun _ => ?_
    exact uses_bind (uses_updateInstanceCheck (hwait (by decide)) _ _ _) fun _ => uses_throw _

/-- The writes of a request that enqueues an instance task and waits for it. -/
def instanceTaskWrites : List Write := .enqueueInstanceTask :: instanceWaitWrites

theorem uses_runLocalInstanceTask (htask : instanceTaskWrites ⊆ writes) (deps : External)
    (id : String) (kind : TaskKind) (pendingStatus taskId : String) (rounds : Nat) :
    Uses writes (runLocalInstanceTask deps id kind pendingStatus taskId rounds) := by
  refine uses_bind (uses_enqueueLocalInstanceTask (htask (by decide)) _ _ _ _ _) fun _ => ?_
  exact uses_waitForModelInstanceTask (fun _ hw => htask (List.mem_cons_of_mem _ hw)) _ _ _

theorem uses_finishCheck (hwait : instanceWaitWrites ⊆ writes) (id taskId : String) (rounds : Nat)
    (begun : Option ModelInstanceView) : Uses writes (finishCheck id taskId rounds begun) := by
  cases begun with
  | none => exact uses_waitForModelInstanceTask hwait id taskId rounds
  | some view => exact uses_pure view

theorem uses_beginCheck (henqueue : .enqueueInstanceTask ∈ writes)
    (hcheck : .updateInstanceCheck ∈ writes) (deps : External) (id taskId : String)
    (http : HttpOutcome) : Uses writes (beginCheck deps id taskId http) := by
  have hupdate := uses_updateInstanceCheck hcheck
  refine uses_bind (uses_modelInstance id) fun row => ?_
  split
  · split
    · exact uses_pure _
    · refine uses_bind (uses_required _ _) fun nodeId => ?_
      refine uses_bind (uses_nodeOnline nodeId) fun online => ?_
      split
      · exact uses_bind (uses_enqueueLocalInstanceTask henqueue _ _ _ _ _) fun _ => uses_pure _
      · exact uses_bind (hupdate _ _ _) fun _ => uses_pure _
  · refine uses_bind ?_ fun view => uses_pure _
    unfold checkExternalInstance
    split <;> exact hupdate _ _ _

theorem uses_beginTest (henqueue : .enqueueInstanceTask ∈ writes)
    (hcheck : .updateInstanceCheck ∈ writes) (deps : External) (id taskId : String)
    (http : HttpOutcome) : Uses writes (beginTest deps id taskId http) := by
  refine uses_bind (uses_modelInstance id) fun row => ?_
  split
  · exact uses_beginCheck henqueue hcheck _ _ _ _
  split
  · exact uses_throw _
  · exact uses_bind (uses_enqueueLocalInstanceTask henqueue _ _ _ _ _) fun _ => uses_pure _

theorem uses_checkModelInstance (htask : instanceTaskWrites ⊆ writes) (deps : External)
    (id taskId : String) (http : HttpOutcome) (rounds : Nat) :
    Uses writes (checkModelInstance deps id taskId http rounds) := by
  refine uses_bind (uses_beginCheck (htask (by decide)) (htask (by decide)) _ _ _ _) fun begun => ?_
  exact uses_finishCheck (fun _ hw => htask (List.mem_cons_of_mem _ hw)) _ _ _ begun

theorem uses_testModelInstance (htask : instanceTaskWrites ⊆ writes) (deps : External)
    (id taskId : String) (http : HttpOutcome) (rounds : Nat) :
    Uses writes (testModelInstance deps id taskId http rounds) := by
  refine uses_bind (uses_beginTest (htask (by decide)) (htask (by decide)) _ _ _ _) fun begun => ?_
  exact uses_finishCheck (fun _ hw => htask (List.mem_cons_of_mem _ hw)) _ _ _ begun

theorem uses_refreshOllamaCheck (hcheck : .updateRuntimeCheck ∈ writes) (id : String) :
    Uses writes (refreshOllamaCheck id) := by
  refine uses_bind uses_ollamaRuntimeConfigCheck fun outcome => ?_
  refine uses_bind (uses_bind uses_nowUnixSecs fun now => ?_) fun _ => uses_runtimeEnvironment id
  exact uses_bind (uses_execute rfl hcheck) fun _ => uses_runtimeEnvironment id

/-- The writes of a request that enqueues a task by itself and waits for it. -/
def plainTaskWrites : List Write := [.insertAgentTask, .markTaskTimedOut]

theorem uses_checkRuntimeEnvironmentBeforeSave (htask : plainTaskWrites ⊆ writes) (nodeId : String)
    (request : RuntimeEnvironmentRequest) (taskId : String) (rounds : Nat) :
    Uses writes (checkRuntimeEnvironmentBeforeSave nodeId request taskId rounds) := by
  refine uses_bind uses_nowUnixSecs fun now => ?_
  refine uses_bind (uses_execute rfl (htask (by decide))) fun accepted => ?_
  refine uses_bind (uses_inserted accepted) fun _ => ?_
  refine uses_waitForTask (fun task outcome houtcome => ?_)
    (uses_plainDeadline (htask (by decide)) taskId _) rounds
  unfold runtimeCheckEnded at houtcome
  dsimp only at houtcome
  split at houtcome
  · rw [← Option.some.inj houtcome]
    split
    · exact uses_throw _
    · exact uses_bind uses_nowUnixSecs fun now => uses_pure _
  · rw [← Option.some.inj houtcome]
    exact uses_throw _
  · rw [← Option.some.inj houtcome]
    exact uses_throw _
  · exact nomatch houtcome

theorem uses_createRuntimeEnvironment (htask : plainTaskWrites ⊆ writes)
    (hinsert : .insertRuntime ∈ writes) (deps : External) (nodeId : String)
    (request : RuntimeEnvironmentRequest) (id taskId : String) (rounds : Nat) :
    Uses writes (createRuntimeEnvironment deps nodeId request id taskId rounds) := by
  have hcheck : Uses writes (checkNewRuntime nodeId request taskId rounds) := by
    unfold checkNewRuntime
    split
    · exact uses_ollamaRuntimeConfigCheck
    · refine uses_bind (uses_ensureNodeOnline nodeId) fun _ => ?_
      exact uses_checkRuntimeEnvironmentBeforeSave htask _ _ _ _
  refine uses_bind (uses_checked _) fun _ => uses_bind hcheck fun outcome => ?_
  refine uses_bind uses_nowUnixSecs fun now => ?_
  refine uses_bind (uses_execute rfl hinsert) fun accepted => ?_
  exact uses_bind (uses_inserted accepted) fun _ => uses_runtimeEnvironment id

theorem uses_updateRuntimeEnvironment (hupdate : .updateRuntime ∈ writes)
    (hcheck : .updateRuntimeCheck ∈ writes) (deps : External) (id : String)
    (request : RuntimeEnvironmentRequest) :
    Uses writes (updateRuntimeEnvironment deps id request) := by
  refine uses_bind (uses_checked _) fun _ => uses_bind (uses_query _) fun running => ?_
  refine uses_bind (uses_rejectIf _ _) fun _ => uses_bind uses_nowUnixSecs fun now => ?_
  refine uses_bind (uses_execute rfl hupdate) fun found => uses_bind (uses_rejectIf _ _) fun _ => ?_
  split
  · exact uses_refreshOllamaCheck hcheck id
  · exact uses_runtimeEnvironment id

theorem uses_deleteRuntimeEnvironment (hdelete : .deleteRuntime ∈ writes) (id : String) :
    Uses writes (deleteRuntimeEnvironment id) := by
  refine uses_bind (uses_query _) fun count => uses_bind (uses_rejectIf _ _) fun _ => ?_
  refine uses_bind (uses_execute rfl hdelete) fun outcome => ?_
  exact uses_bind (uses_checked outcome) fun found => uses_rejectIf _ _

theorem uses_checkRuntimeEnvironment (htask : plainTaskWrites ⊆ writes)
    (hcheck : .updateRuntimeCheck ∈ writes) (hset : .setRuntimeChecked ∈ writes)
    (id taskId : String) (rounds : Nat) :
    Uses writes (checkRuntimeEnvironment id taskId rounds) := by
  refine uses_bind (uses_runtimeEnvironment id) fun environment => ?_
  split
  · exact uses_refreshOllamaCheck hcheck id
  · refine uses_bind (uses_required _ _) fun nodeId => ?_
    refine uses_bind (uses_nodeOnline nodeId) fun online => ?_
    split
    · refine uses_bind (uses_checkRuntimeEnvironmentBeforeSave htask _ _ _ _) fun outcome => ?_
      refine uses_bind uses_nowUnixSecs fun now => ?_
      exact uses_bind (uses_execute rfl hset) fun _ => uses_runtimeEnvironment id
    · refine uses_bind (uses_bind uses_nowUnixSecs fun now => ?_) fun _ => uses_throw _
      exact uses_bind (uses_execute rfl hcheck) fun _ => uses_runtimeEnvironment id

end Instances

/-! ### Model files, trash, logs and the gateway -/

section Files

variable {writes : List Write}

/-- The writes of a read of model files. -/
def fileReadWrites : List Write := .expireModelFile :: sweepWrites

theorem uses_modelFileRows (hread : fileReadWrites ⊆ writes) (modelId fileId : Option String) :
    Uses writes (modelFileRows modelId fileId) := by
  have hsweep : sweepWrites ⊆ writes := fun _ hw => hread (List.mem_cons_of_mem _ hw)
  have hexpire : ∀ now rows, Uses writes (expireModelFiles now rows) := by
    intro now rows
    induction rows with
    | nil => exact uses_pure ()
    | cons row rows ih =>
        unfold expireModelFiles
        split
        · exact uses_bind (uses_execute rfl (hread (by decide))) fun _ => ih
        · exact ih
  refine uses_bind (uses_markTimedOutTasks hsweep) fun _ => uses_bind uses_nowUnixSecs fun now => ?_
  refine uses_bind (uses_query _) fun rows => ?_
  exact uses_bind (hexpire now rows) fun _ => uses_pure rows

theorem uses_modelFile (hread : fileReadWrites ⊆ writes) (id : String) :
    Uses writes (modelFile id) := by
  refine uses_bind (uses_modelFileRows hread _ _) fun rows => ?_
  refine uses_bind (uses_required _ _) fun row => ?_
  exact uses_bind uses_nowUnixSecs fun now => uses_pure _

theorem uses_listModelFiles (hread : fileReadWrites ⊆ writes) (modelId : String) :
    Uses writes (listModelFiles modelId) := by
  refine uses_bind (uses_ensureModelExists modelId) fun _ => ?_
  refine uses_bind (uses_modelFileRows hread _ _) fun rows => ?_
  exact uses_bind uses_nowUnixSecs fun now => uses_pure _

theorem uses_modelFileSummary (hsweep : sweepWrites ⊆ writes) (modelId : String) :
    Uses writes (modelFileSummary modelId) :=
  uses_bind (uses_markTimedOutTasks hsweep) fun _ => uses_bind (uses_query _) fun _ => uses_pure _

theorem uses_verifyModelFileBeforeSave (htask : plainTaskWrites ⊆ writes)
    (nodeId path taskId : String) (rounds : Nat) :
    Uses writes (verifyModelFileBeforeSave nodeId path taskId rounds) := by
  refine uses_bind (uses_nodeOnline nodeId) fun _ => uses_bind (uses_rejectIf _ _) fun _ => ?_
  refine uses_bind uses_nowUnixSecs fun now => ?_
  refine uses_bind (uses_execute rfl (htask (by decide))) fun accepted => ?_
  refine uses_bind (uses_inserted accepted) fun _ => ?_
  refine uses_waitForTask (fun task outcome houtcome => ?_)
    (uses_plainDeadline (htask (by decide)) taskId _) rounds
  unfold verificationEnded at houtcome
  split at houtcome
  · rw [← Option.some.inj houtcome]
    dsimp only
    split
    · exact uses_throw _
    · exact uses_bind uses_nowUnixSecs fun now => uses_pure _
  · rw [← Option.some.inj houtcome]
    exact uses_throw _
  · rw [← Option.some.inj houtcome]
    exact uses_throw _
  · exact nomatch houtcome

/-- The writes of a request that has a file verified and then reads it. -/
def savedFileWrites : List Write := plainTaskWrites ++ fileReadWrites

theorem uses_createModelFile (hsave : savedFileWrites ⊆ writes) (hinsert : .insertModelFile ∈ writes)
    (modelId : String) (request : ModelFileRequest) (id taskId : String) (rounds : Nat) :
    Uses writes (createModelFile modelId request id taskId rounds) := by
  have hverify := uses_verifyModelFileBeforeSave
    (fun _ hw => hsave (List.mem_append_left _ hw) : plainTaskWrites ⊆ writes)
  have hread : fileReadWrites ⊆ writes := fun _ hw => hsave (List.mem_append_right _ hw)
  refine uses_bind (uses_checked _) fun _ => uses_bind (uses_checked _) fun _ => ?_
  refine uses_bind (uses_ensureModelExists _) fun _ => uses_bind (uses_ensureNodeExists _) fun _ => ?_
  refine uses_bind (hverify _ _ _ _) fun verified => uses_bind uses_nowUnixSecs fun now => ?_
  refine uses_bind (uses_execute rfl hinsert) fun accepted => ?_
  exact uses_bind (uses_inserted accepted) fun _ => uses_modelFile hread id

theorem uses_updateModelFile (hsave : savedFileWrites ⊆ writes) (hupdate : .updateModelFile ∈ writes)
    (id : String) (request : ModelFileRequest) (taskId : String) (rounds : Nat) :
    Uses writes (updateModelFile id request taskId rounds) := by
  have hverify := uses_verifyModelFileBeforeSave
    (fun _ hw => hsave (List.mem_append_left _ hw) : plainTaskWrites ⊆ writes)
  have hread : fileReadWrites ⊆ writes := fun _ hw => hsave (List.mem_append_right _ hw)
  refine uses_bind (uses_checked _) fun _ => uses_bind (uses_checked _) fun _ => ?_
  refine uses_bind (uses_ensureNodeExists _) fun _ => uses_bind (hverify _ _ _ _) fun verified => ?_
  refine uses_bind uses_nowUnixSecs fun now => uses_bind (uses_execute rfl hupdate) fun found => ?_
  split
  · exact uses_modelFile hread id
  · exact uses_throw _

theorem uses_queueModelFileVerification (hread : fileReadWrites ⊆ writes)
    (henqueue : .enqueueFileVerification ∈ writes) (id taskId : String) :
    Uses writes (queueModelFileVerification id taskId) := by
  refine uses_bind (uses_modelFile hread id) fun file => uses_bind uses_nowUnixSecs fun now => ?_
  refine uses_bind (uses_nodeOnline file.nodeId) fun online => ?_
  refine uses_bind (uses_execute rfl henqueue) fun accepted => ?_
  exact uses_bind (uses_inserted accepted) fun _ => uses_modelFile hread id

theorem uses_ensureModelFileTrash (hread : fileReadWrites ⊆ writes) (hinsert : .insertTrash ∈ writes)
    (modelFileId : String) (reason note : Option String) (id : String) :
    Uses writes (ensureModelFileTrash modelFileId reason note id) := by
  refine uses_bind (uses_query _) fun existingId => ?_
  split
  · exact uses_modelFileTrashItem _
  · refine uses_bind (uses_modelFile hread modelFileId) fun file => ?_
    refine uses_bind uses_nowUnixSecs fun now => ?_
    refine uses_bind (uses_execute rfl hinsert) fun accepted => ?_
    exact uses_bind (uses_inserted accepted) fun _ => uses_modelFileTrashItem id

theorem uses_deleteModelFile (hread : fileReadWrites ⊆ writes) (hinsert : .insertTrash ∈ writes)
    (hdelete : .deleteModelFile ∈ writes) (id trashId : String) :
    Uses writes (deleteModelFile id trashId) := by
  refine uses_bind (uses_ensureModelFileTrash hread hinsert _ _ _ _) fun _ => ?_
  refine uses_bind uses_nowUnixSecs fun now => uses_bind (uses_execute rfl hdelete) fun found => ?_
  split
  · exact uses_pure ()
  · exact uses_throw _

/-- The writes of a cleanup and of the wait for it. -/
def cleanupWrites : List Write :=
  [.insertAgentTask, .setTrashCleanupPending, .markTaskTimedOut, .updateTrashFailure]

theorem uses_waitForModelFileCleanup (hcleanup : cleanupWrites ⊆ writes) (trashId taskId : String)
    (rounds : Nat) : Uses writes (waitForModelFileCleanup trashId taskId rounds) := by
  refine uses_waitForTask (fun task outcome houtcome => ?_) ?_ rounds
  · unfold cleanupEnded at houtcome
    split at houtcome
    · rw [← Option.some.inj houtcome]
      exact uses_modelFileTrashItem trashId
    · rw [← Option.some.inj houtcome]
      exact uses_throw _
    · rw [← Option.some.inj houtcome]
      exact uses_throw _
    · exact nomatch houtcome
  · refine uses_bind (uses_markTaskTimedOut (hcleanup (by decide)) taskId) fun _ => ?_
    exact uses_bind (uses_updateTrashFailure (hcleanup (by decide)) _ _ _) fun _ => uses_throw _

theorem uses_cleanupModelFileTrash (hcleanup : cleanupWrites ⊆ writes) (id taskId : String)
    (rounds : Nat) : Uses writes (cleanupModelFileTrash id taskId rounds) := by
  refine uses_bind (uses_modelFileTrashItem id) fun item => ?_
  refine uses_bind (uses_required _ _) fun nodeId => ?_
  split
  · exact uses_pure item
  · refine uses_bind (uses_nodeOnline nodeId) fun online => ?_
    split
    · refine uses_bind uses_nowUnixSecs fun now => ?_
      refine uses_bind (uses_execute rfl (hcleanup (by decide))) fun accepted => ?_
      refine uses_bind (uses_inserted accepted) fun _ => ?_
      refine uses_bind (uses_execute rfl (hcleanup (by decide))) fun _ => ?_
      exact uses_waitForModelFileCleanup hcleanup id taskId rounds
    · exact uses_bind (uses_updateTrashFailure (hcleanup (by decide)) _ _ _) fun _ => uses_throw _

theorem uses_deleteModelFileTrash (hdelete : .deleteTrash ∈ writes) (id : String) :
    Uses writes (deleteModelFileTrash id) := by
  refine uses_bind (uses_execute rfl hdelete) fun found => ?_
  split
  · exact uses_pure ()
  · exact uses_throw _

theorem uses_runReadTask {α : Type} (htask : plainTaskWrites ⊆ writes) {taskId nodeId : String}
    {kind : TaskKind} {payload : Json} {ended : AgentTask → Option (Handler α)}
    (hended : ∀ task outcome, ended task = some outcome → Uses writes outcome)
    (timedOut : DomainError) (rounds : Nat) :
    Uses writes (runReadTask taskId nodeId kind payload ended timedOut rounds) := by
  refine uses_bind uses_nowUnixSecs fun now => ?_
  refine uses_bind (uses_execute rfl (htask (by decide))) fun accepted => ?_
  refine uses_bind (uses_inserted accepted) fun _ => ?_
  exact uses_waitForTask hended (uses_plainDeadline (htask (by decide)) taskId timedOut) rounds

theorem uses_readEnded {α : Type} {succeeded : Json → Handler α}
    (hsucceeded : ∀ result, Uses writes (succeeded result)) (failed : String) (task : AgentTask)
    (outcome : Handler α) (houtcome : readEnded succeeded failed task = some outcome) :
    Uses writes outcome := by
  unfold readEnded at houtcome
  split at houtcome
  · rw [← Option.some.inj houtcome]
    exact hsucceeded _
  · rw [← Option.some.inj houtcome]
    exact uses_throw _
  · exact nomatch houtcome

theorem uses_readAgentLog (htask : plainTaskWrites ⊆ writes) (nodeId : String) (maxBytes : Nat)
    (taskId : String) (rounds : Nat) :
    Uses writes (readAgentLog nodeId maxBytes taskId rounds) := by
  refine uses_bind (uses_nodeOnline nodeId) fun online => ?_
  split
  · exact uses_runReadTask htask (uses_readEnded (fun _ => uses_pure _) _) _ rounds
  · exact uses_throw _

theorem uses_refreshInstanceLogs (htask : plainTaskWrites ⊆ writes)
    (hset : .setInstanceLogTail ∈ writes) (id taskId : String) (rounds : Nat) :
    Uses writes (refreshInstanceLogs id taskId rounds) := by
  refine uses_bind (uses_modelInstance id) fun row => ?_
  split
  · exact uses_throw _
  · refine uses_bind (uses_required _ _) fun nodeId => ?_
    refine uses_bind (uses_nodeOnline nodeId) fun online => ?_
    split
    · refine uses_bind (uses_required _ _) fun envId => ?_
      refine uses_bind (uses_runtimeEnvironment envId) fun env => ?_
      refine uses_runReadTask htask (uses_readEnded (fun result => ?_) _) _ rounds
      refine uses_bind uses_nowUnixSecs fun now => ?_
      exact uses_bind (uses_execute rfl hset) fun _ => uses_pure _
    · exact uses_throw _

theorem uses_ollamaModelList (htask : plainTaskWrites ⊆ writes) (deps : External)
    (nodeId runtimeEnvId taskId : String) (rounds : Nat) :
    Uses writes (ollamaModelList deps nodeId runtimeEnvId taskId rounds) := by
  refine uses_bind (uses_nodeOnline nodeId) fun online => ?_
  split
  · refine uses_bind (uses_runtimeEnvironment runtimeEnvId) fun env => ?_
    exact uses_runReadTask htask (uses_readEnded (fun _ => uses_pure _) _) _ rounds
  · exact uses_throw _

theorem uses_runGatewayTask (htask : plainTaskWrites ⊆ writes) (deps : External) (nodeId : String)
    (kind : TaskKind) (request : GatewayTaskRequest) (taskId : String) (rounds : Nat) :
    Uses writes (runGatewayTask deps nodeId kind request taskId rounds) := by
  refine uses_bind (uses_ensureNodeCanRunGatewayTask nodeId) fun _ => ?_
  refine uses_bind (uses_checked _) fun _ => ?_
  refine uses_runReadTask htask (fun task outcome houtcome => ?_) _ rounds
  unfold gatewayTaskEnded at houtcome
  split at houtcome
  · rw [← Option.some.inj houtcome]
    exact uses_checked _
  · rw [← Option.some.inj houtcome]
    split <;> exact uses_throw _
  · rw [← Option.some.inj houtcome]
    exact uses_throw _
  · exact nomatch houtcome

end Files

/-! ### The requests of an agent -/

section AgentRequests

variable {writes : List Write}

theorem uses_pollLoop (hsweep : sweepWrites ⊆ writes) (nodeId : String)
    (currentConfigVersion : Option Int) (waits : List Bool) :
    Uses writes (pollLoop nodeId currentConfigVersion waits) := by
  induction waits with
  | nil =>
      refine uses_bind (uses_markTimedOutTasks hsweep) fun _ => ?_
      refine uses_bind (uses_nextQueuedAgentTask nodeId) fun row => ?_
      split
      · exact uses_pure _
      · exact uses_bind (uses_effectiveAgentConfig nodeId) fun _ => uses_pure _
  | cons notified waits ih =>
      refine uses_bind (uses_markTimedOutTasks hsweep) fun _ => ?_
      refine uses_bind (uses_nextQueuedAgentTask nodeId) fun row => ?_
      split
      · exact uses_pure _
      split
      · refine uses_bind (uses_effectiveAgentConfig nodeId) fun config => ?_
        refine uses_bind (uses_nextQueuedAgentTask nodeId) fun next => ?_
        split
        · exact uses_pure _
        · exact ih
      · exact ih

/-- The writes of what a poll does with the row that it has selected. -/
def dispatchWrites : List Write := [.claimAgentTask, .setFileVerifying, .setTrashCleanupRunning]

theorem uses_markDispatched (hfile : .setFileVerifying ∈ writes)
    (htrash : .setTrashCleanupRunning ∈ writes) (task : AgentTask) (now : Int) :
    Uses writes (markDispatched task now) := by
  unfold markDispatched
  split
  · split
    · exact uses_pure ()
    · exact uses_execute rfl hfile
  · split
    · exact uses_pure ()
    · exact uses_execute rfl htrash
  · exact uses_pure ()

theorem uses_dispatchAgentTask (hdispatch : dispatchWrites ⊆ writes) (nodeId : String)
    (row : AgentTask) : Uses writes (dispatchAgentTask nodeId row) := by
  have hmark := uses_markDispatched (hdispatch (by decide)) (hdispatch (by decide))
  refine uses_bind uses_nowUnixSecs fun now => ?_
  refine uses_bind (uses_execute rfl (hdispatch (by decide))) fun _ => ?_
  refine uses_bind (hmark row now) fun _ => uses_bind (uses_query _) fun stored => ?_
  refine uses_bind (uses_required _ stored) fun stored => ?_
  exact uses_bind (uses_effectiveAgentConfig nodeId) fun _ => uses_pure _

theorem uses_pollAgentTask (hsweep : sweepWrites ⊆ writes) (hdispatch : dispatchWrites ⊆ writes)
    (nodeId : String) (currentConfigVersion : Option Int) (waits : List Bool) :
    Uses writes (pollAgentTask nodeId currentConfigVersion waits) := by
  refine uses_bind (uses_pollLoop hsweep nodeId currentConfigVersion waits) fun found => ?_
  split
  · exact uses_pure _
  · exact uses_dispatchAgentTask hdispatch nodeId _

theorem uses_recordAgentTaskResult (hresult : .recordResult ∈ writes) (taskId : String)
    (request : AgentTaskResultRequest) : Uses writes (recordAgentTaskResult taskId request) := by
  refine uses_bind (uses_query _) fun task => uses_bind (uses_required _ task) fun task => ?_
  refine uses_bind (uses_required _ _) fun status => uses_bind uses_nowUnixSecs fun now => ?_
  refine uses_bind (uses_execute rfl hresult) fun outcome => ?_
  exact uses_bind (uses_checked outcome) fun _ => uses_pure ()

theorem uses_recordHeartbeat (hheartbeat : .recordHeartbeat ∈ writes) (request : HeartbeatRequest) :
    Uses writes (recordHeartbeat request) := by
  refine uses_bind uses_nowUnixSecs fun now => ?_
  refine uses_bind (uses_execute rfl hheartbeat) fun outcome => ?_
  exact uses_bind (uses_checked outcome) fun _ => uses_pure ()

end AgentRequests

/-! ### All requests -/

/-- The kinds of writes that each request may execute. -/
def Request.writes : Request → List Write
  | pollAgentTask .. => sweepWrites ++ dispatchWrites
  | recordAgentTaskResult .. => [.recordResult]
  | recordHeartbeat _ => [.recordHeartbeat]
  | createModelInstance .. => [.insertModelInstance]
  | updateModelInstance .. => [.updateLocalInstance, .updateExternalInstance]
  | deleteModelInstance _ => [.deleteModelInstance]
  | startModelInstance .. | stopModelInstance .. | checkModelInstance .. | testModelInstance .. =>
      instanceTaskWrites
  | refreshInstanceLogs .. => .setInstanceLogTail :: plainTaskWrites
  | createRuntimeEnvironment .. => .insertRuntime :: plainTaskWrites
  | updateRuntimeEnvironment .. => [.updateRuntime, .updateRuntimeCheck]
  | checkRuntimeEnvironment .. => .updateRuntimeCheck :: .setRuntimeChecked :: plainTaskWrites
  | deleteRuntimeEnvironment _ => [.deleteRuntime]
  | ollamaModelList .. | readAgentLog .. | runGatewayTask .. => plainTaskWrites
  | listModelFiles _ => fileReadWrites
  | modelFileSummary _ => sweepWrites
  | createModelFile .. => .insertModelFile :: savedFileWrites
  | updateModelFile .. => .updateModelFile :: savedFileWrites
  | queueModelFileVerification .. => .enqueueFileVerification :: fileReadWrites
  | deleteModelFile .. => .deleteModelFile :: .insertTrash :: fileReadWrites
  | createModelFileTrash .. => .insertTrash :: fileReadWrites
  | cleanupModelFileTrash .. => cleanupWrites
  | deleteModelFileTrash _ => [.deleteTrash]

theorem uses_answered {α : Type} {writes : List Write} {h : Handler α} (huses : Uses writes h) :
    Uses writes (answered h) :=
  uses_bind huses fun _ => uses_pure _

theorem uses_handler (deps : External) (request : Request) :
    Uses request.writes (request.handler deps) := by
  cases request
  all_goals simp only [Request.writes]
  case pollAgentTask nodeId version waits =>
      exact uses_bind (uses_pollAgentTask (by decide) (by decide) _ _ _) fun _ => uses_pure _
  case recordAgentTaskResult => exact uses_answered (uses_recordAgentTaskResult (by decide) _ _)
  case recordHeartbeat => exact uses_answered (uses_recordHeartbeat (by decide) _)
  case createModelInstance => exact uses_answered (uses_createModelInstance (by decide) _ _ _)
  case updateModelInstance =>
      exact uses_answered (uses_updateModelInstance (by decide) (by decide) _ _ _)
  case deleteModelInstance => exact uses_answered (uses_deleteModelInstance (by decide) _)
  case startModelInstance => exact uses_answered (uses_runLocalInstanceTask (by decide) _ _ _ _ _ _)
  case stopModelInstance => exact uses_answered (uses_runLocalInstanceTask (by decide) _ _ _ _ _ _)
  case checkModelInstance => exact uses_answered (uses_checkModelInstance (by decide) _ _ _ _ _)
  case testModelInstance => exact uses_answered (uses_testModelInstance (by decide) _ _ _ _ _)
  case refreshInstanceLogs =>
      exact uses_answered (uses_refreshInstanceLogs (by decide) (by decide) _ _ _)
  case createRuntimeEnvironment =>
      exact uses_answered (uses_createRuntimeEnvironment (by decide) (by decide) _ _ _ _ _ _)
  case updateRuntimeEnvironment =>
      exact uses_answered (uses_updateRuntimeEnvironment (by decide) (by decide) _ _ _)
  case checkRuntimeEnvironment =>
      exact uses_answered
        (uses_checkRuntimeEnvironment (by decide) (by decide) (by decide) _ _ _)
  case deleteRuntimeEnvironment => exact uses_answered (uses_deleteRuntimeEnvironment (by decide) _)
  case ollamaModelList => exact uses_answered (uses_ollamaModelList (by decide) _ _ _ _ _)
  case listModelFiles => exact uses_answered (uses_listModelFiles (by decide) _)
  case modelFileSummary => exact uses_answered (uses_modelFileSummary (by decide) _)
  case createModelFile =>
      exact uses_answered (uses_createModelFile (by decide) (by decide) _ _ _ _ _)
  case updateModelFile => exact uses_answered (uses_updateModelFile (by decide) (by decide) _ _ _ _)
  case queueModelFileVerification =>
      exact uses_answered (uses_queueModelFileVerification (by decide) (by decide) _ _)
  case deleteModelFile =>
      exact uses_answered (uses_deleteModelFile (by decide) (by decide) (by decide) _ _)
  case createModelFileTrash =>
      exact uses_answered (uses_ensureModelFileTrash (by decide) (by decide) _ _ _ _)
  case cleanupModelFileTrash => exact uses_answered (uses_cleanupModelFileTrash (by decide) _ _ _)
  case deleteModelFileTrash => exact uses_answered (uses_deleteModelFileTrash (by decide) _)
  case readAgentLog => exact uses_answered (uses_readAgentLog (by decide) _ _ _ _)
  case runGatewayTask => exact uses_answered (uses_runGatewayTask (by decide) _ _ _ _ _ _)

end LightAI.Server
