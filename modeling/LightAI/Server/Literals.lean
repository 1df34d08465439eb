import LightAI.Server.Platform

/-!
# What the text of a statement fixes

Some columns of the rows that a request writes are constants of the SQL text or of the code around it,
whatever the request carries and whatever the database answers: the status of a new row, the status
under which a cleanup fails, the status that goes with the kind of an enqueued task.
-/

namespace LightAI.Server

def Stmt.Literal : Stmt → Prop
  | insertAgentTask task =>
      task.row.entity = none ∨
        ∃ trashId path, task.kind = .cleanupModelFile ∧
          task.payloadJson = .obj [("trash_id", .str trashId), ("path", .str path)]
  | enqueueInstanceTask task _ pendingStatus _ =>
      (task.kind, pendingStatus) ∈
        [ (.startModelInstance, "starting"), (.stopModelInstance, "stopping"),
          (.checkModelInstance, "running"), (.testModelInstance, "running") ]
  | enqueueFileVerification task _ _ _ => task.kind = .verifyModelFile
  | insertModelFile file =>
      file.status = "verified" ∧ file.deletedAt = none ∧ file.verifyTaskId = none
  | insertTrash item => item.status = .pending ∧ item.fileDeletedAt = none
  | updateTrashFailure _ status _ _ => status = .cleanupFailed ∨ status = .cleanupTimeout
  | insertModelInstance row => row.deployType = "local" → row.status = "stopped"
  | _ => True

/-- Whatever the database answers, the constants of the handler's statements are as their text has
them. -/
def Literal {α : Type} (h : Handler α) : Prop := h.run.Performs Stmt.Literal

/-- The kinds of writes that have no such constant. -/
def plainWrites : List Write :=
  [.claimAgentTask, .markTaskTimedOut, .recordResult, .setFileVerifying, .setFileVerifyTimeout,
    .expireModelFile, .updateModelFile, .deleteModelFile, .setTrashCleanupRunning,
    .setTrashCleanupPending, .deleteTrash, .updateInstanceCheck, .updateLocalInstance,
    .updateExternalInstance, .deleteModelInstance, .setInstanceLogTail, .insertRuntime,
    .updateRuntime, .setRuntimeChecked, .updateRuntimeCheck, .deleteRuntime, .recordHeartbeat]

section Rules

variable {α β : Type}

theorem stmt_literal_of_among {stmt : Stmt} (h : stmt.Among plainWrites) : stmt.Literal := by
  cases stmt with
  | insertAgentTask task => exact absurd (h _ rfl) (by decide)
  | enqueueInstanceTask task => exact absurd (h _ rfl) (by decide)
  | enqueueFileVerification task => exact absurd (h _ rfl) (by decide)
  | insertModelFile file => exact absurd (h _ rfl) (by decide)
  | insertTrash item => exact absurd (h _ rfl) (by decide)
  | updateTrashFailure trashId => exact absurd (h _ rfl) (by decide)
  | insertModelInstance row => exact absurd (h _ rfl) (by decide)
  | _ => trivial

theorem Uses.literal {writes : List Write} {h : Handler α} (huses : Uses writes h)
    (hsub : writes ⊆ plainWrites) : Literal h :=
  Program.Performs.mono (fun _ hamong => stmt_literal_of_among fun w hw => hsub (hamong w hw)) huses

theorem Uses.literal_reads {h : Handler α} (huses : Uses [] h) : Literal h :=
  huses.literal (List.nil_subset _)

theorem literal_pure (a : α) : Literal (pure a) := trivial

theorem literal_throw (e : DomainError) : Literal (throw e : Handler α) := trivial

theorem literal_bind {h : Handler α} {f : α → Handler β} (hh : Literal h)
    (hf : ∀ a, Literal (f a)) : Literal (h >>= f) := by
  refine Program.Performs.bind hh fun result => ?_
  cases result with
  | ok a => exact hf a
  | error e => trivial

theorem literal_execute {stmt : Stmt} (h : stmt.Literal) : Literal (execute stmt) :=
  ⟨h, fun _ => trivial⟩

/-- After a check has passed. -/
theorem literal_checked_bind {value : Except DomainError α} {f : α → Handler β}
    (hf : ∀ a, value = .ok a → Literal (f a)) : Literal (checked value >>= f) := by
  cases value with
  | error e => trivial
  | ok a => exact hf a rfl

end Rules

/-! ### The sweep and what it is part of -/

theorem literal_updateTrashFailure (trashId : String) {status : TrashStatus} (message : String)
    (hstatus : status = .cleanupFailed ∨ status = .cleanupTimeout) :
    Literal (updateTrashFailure trashId status message) :=
  literal_bind uses_nowUnixSecs.literal_reads fun _ => literal_execute hstatus

theorem literal_applyTimeout (task : AgentTask) (now : Int) : Literal (applyTimeout task now) := by
  have hinstance : ∀ id status error, Literal (updateInstanceCheck id status error) :=
    fun id status error =>
      (uses_updateInstanceCheck List.mem_cons_self id status error :
        Uses [.updateInstanceCheck] _).literal (by decide)
  unfold applyTimeout
  split
  · split
    · exact literal_pure ()
    · exact literal_execute trivial
  · split
    · exact literal_pure ()
    · exact literal_updateTrashFailure _ _ (.inr rfl)
  all_goals first
    | exact literal_pure ()
    | (split
       · exact literal_pure ()
       · exact literal_bind (hinstance _ _ _) fun _ => literal_pure ())

theorem literal_markTimedOutTasks : Literal markTimedOutTasks := by
  have htasks : ∀ now tasks, Literal (timeOutTasks now tasks) := by
    intro now tasks
    induction tasks with
    | nil => exact literal_pure ()
    | cons task tasks ih =>
        have hmark : Uses [.markTaskTimedOut] (markTaskTimedOut task.id) :=
          uses_markTaskTimedOut List.mem_cons_self task.id
        apply literal_bind (hmark.literal (by decide))
        intro _
        exact literal_bind (literal_applyTimeout task now) fun _ => ih
  apply literal_bind uses_nowUnixSecs.literal_reads
  intro now
  exact literal_bind (uses_query _).literal_reads fun rows => htasks now rows

theorem literal_modelFileRows (modelId fileId : Option String) :
    Literal (modelFileRows modelId fileId) := by
  have hexpire : ∀ now rows, Literal (expireModelFiles now rows) := by
    intro now rows
    induction rows with
    | nil => exact literal_pure ()
    | cons row rows ih =>
        unfold expireModelFiles
        split
        · exact literal_bind (literal_execute trivial) fun _ => ih
        · exact ih
  apply literal_bind literal_markTimedOutTasks
  intro _
  apply literal_bind uses_nowUnixSecs.literal_reads
  intro now
  apply literal_bind (uses_query _).literal_reads
  intro rows
  exact literal_bind (hexpire now rows) fun _ => literal_pure rows

theorem literal_modelFile (id : String) : Literal (modelFile id) := by
  apply literal_bind (literal_modelFileRows none (some id))
  intro rows
  apply literal_bind (uses_required _ _).literal_reads
  intro row
  exact literal_bind uses_nowUnixSecs.literal_reads fun now => literal_pure _

theorem literal_pollAgentTask (nodeId : String) (version : Option Int) (waits : List Bool) :
    Literal (pollAgentTask nodeId version waits) := by
  have hnext : Literal (nextQueuedAgentTask nodeId) :=
    (uses_nextQueuedAgentTask nodeId).literal_reads
  have hconfig : Literal (effectiveAgentConfig nodeId) :=
    (uses_effectiveAgentConfig nodeId).literal_reads
  have hloop : Literal (pollLoop nodeId version waits) := by
    induction waits with
    | nil =>
        apply literal_bind literal_markTimedOutTasks
        intro _
        apply literal_bind hnext
        intro found
        cases found with
        | some row => exact literal_pure _
        | none => exact literal_bind hconfig fun config => literal_pure _
    | cons notified waits ih =>
        apply literal_bind literal_markTimedOutTasks
        intro _
        apply literal_bind hnext
        intro found
        cases found with
        | some row => exact literal_pure _
        | none =>
            dsimp only
            split
            · apply literal_bind hconfig
              intro config
              apply literal_bind hnext
              intro next
              split
              · exact literal_pure _
              · exact ih
            · exact ih
  apply literal_bind hloop
  intro found
  cases found with
  | inr config => exact literal_pure _
  | inl row =>
      have huses : Uses dispatchWrites (dispatchAgentTask nodeId row) :=
        uses_dispatchAgentTask (List.Subset.refl _) nodeId row
      exact huses.literal (by decide)

/-! ### Enqueueing -/

/-- A task by itself, which names no row. -/
theorem literal_insertAgentTask {task : NewAgentTask} (h : task.row.entity = none) :
    Literal (execute (.insertAgentTask task)) :=
  literal_execute (.inl h)

theorem literal_enqueueLocalInstanceTask (deps : External) (id : String) {kind : TaskKind}
    {pendingStatus : String} (taskId : String)
    (hkind : ∀ task now, task.kind = kind →
      (Stmt.enqueueInstanceTask task id pendingStatus now).Literal) :
    Literal (enqueueLocalInstanceTask deps id kind pendingStatus taskId) := by
  apply literal_bind (uses_modelInstance id).literal_reads
  intro row
  apply literal_bind (uses_rejectIf _ _).literal_reads
  intro _
  apply literal_bind (uses_required _ _).literal_reads
  intro nodeId
  apply literal_bind (uses_nodeOnline nodeId).literal_reads
  intro online
  apply literal_bind (uses_rejectIf _ _).literal_reads
  intro _
  apply literal_bind (uses_required _ _).literal_reads
  intro envId
  apply literal_bind (uses_runtimeEnvironment envId).literal_reads
  intro env
  apply literal_bind (uses_rejectIf _ _).literal_reads
  intro _
  apply literal_bind (uses_checked _).literal_reads
  intro params
  apply literal_bind uses_nowUnixSecs.literal_reads
  intro now
  apply literal_bind (uses_instanceTaskFile row env).literal_reads
  intro file
  apply literal_bind (literal_execute (hkind _ now rfl))
  intro accepted
  exact (uses_inserted accepted).literal_reads

theorem literal_waitForModelInstanceTask (id taskId : String) (rounds : Nat) :
    Literal (waitForModelInstanceTask id taskId rounds) := by
  have huses : Uses instanceWaitWrites (waitForModelInstanceTask id taskId rounds) :=
    uses_waitForModelInstanceTask (List.Subset.refl _) id taskId rounds
  exact huses.literal (by decide)

theorem literal_runLocalInstanceTask (deps : External) (id : String) {kind : TaskKind}
    {pendingStatus : String} (taskId : String) (rounds : Nat)
    (hkind : ∀ task now, task.kind = kind →
      (Stmt.enqueueInstanceTask task id pendingStatus now).Literal) :
    Literal (runLocalInstanceTask deps id kind pendingStatus taskId rounds) :=
  literal_bind (literal_enqueueLocalInstanceTask deps id taskId hkind) fun _ =>
    literal_waitForModelInstanceTask id taskId rounds

theorem literal_finishCheck (id taskId : String) (rounds : Nat) (begun : Option ModelInstanceView) :
    Literal (finishCheck id taskId rounds begun) := by
  cases begun with
  | none => exact literal_waitForModelInstanceTask id taskId rounds
  | some view => exact literal_pure view

theorem literal_beginCheck (deps : External) (id taskId : String) (http : HttpOutcome) :
    Literal (beginCheck deps id taskId http) := by
  have hcheck : ∀ status error, Literal (updateInstanceCheck id status error) :=
    fun status error =>
      (uses_updateInstanceCheck List.mem_cons_self id status error :
        Uses [.updateInstanceCheck] _).literal (by decide)
  apply literal_bind (uses_modelInstance id).literal_reads
  intro row
  split
  · split
    · exact literal_pure _
    · apply literal_bind (uses_required _ _).literal_reads
      intro nodeId
      apply literal_bind (uses_nodeOnline nodeId).literal_reads
      intro online
      split
      · refine literal_bind (literal_enqueueLocalInstanceTask deps id taskId ?_) fun _ =>
          literal_pure _
        intro task now htask
        simp [Stmt.Literal, htask]
      · exact literal_bind (hcheck _ _) fun _ => literal_pure _
  · refine literal_bind ?_ fun view => literal_pure _
    unfold checkExternalInstance
    split <;> exact hcheck _ _

theorem literal_beginTest (deps : External) (id taskId : String) (http : HttpOutcome) :
    Literal (beginTest deps id taskId http) := by
  apply literal_bind (uses_modelInstance id).literal_reads
  intro row
  split
  · exact literal_beginCheck deps id taskId http
  split
  · exact literal_throw _
  · refine literal_bind (literal_enqueueLocalInstanceTask deps id taskId ?_) fun _ => literal_pure _
    intro task now htask
    simp [Stmt.Literal, htask]

theorem literal_waitForTask {α : Type} {taskId : String}
    {ended : AgentTask → Option (Handler α)} {deadline : Handler α}
    (hended : ∀ task outcome, ended task = some outcome → Literal outcome)
    (hdeadline : Literal deadline) (rounds : Nat) :
    Literal (waitForTask taskId ended deadline rounds) := by
  induction rounds with
  | zero =>
      apply literal_bind (uses_query _).literal_reads
      intro row
      apply literal_bind (uses_required _ row).literal_reads
      intro task
      split
      · exact hended task _ ‹_›
      · exact hdeadline
  | succ rounds ih =>
      apply literal_bind (uses_query _).literal_reads
      intro row
      apply literal_bind (uses_required _ row).literal_reads
      intro task
      split
      · exact hended task _ ‹_›
      · exact ih

/-- The deadline of a request whose timeout changes nothing but the task. -/
theorem literal_plainDeadline {α : Type} (taskId : String) (error : DomainError) :
    Literal (do markTaskTimedOut taskId; throw error : Handler α) := by
  have hmark : Uses [.markTaskTimedOut] (markTaskTimedOut taskId) :=
    uses_markTaskTimedOut List.mem_cons_self taskId
  exact literal_bind (hmark.literal (by decide)) fun _ => literal_throw error

theorem literal_runReadTask {α : Type} {taskId nodeId : String} {kind : TaskKind} {payload : Json}
    {ended : AgentTask → Option (Handler α)} (hentity : ∀ now, AgentTask.entity
      (NewAgentTask.row { id := taskId, nodeId, kind, payloadJson := payload, now }) = none)
    (hended : ∀ task outcome, ended task = some outcome → Literal outcome)
    (timedOut : DomainError) (rounds : Nat) :
    Literal (runReadTask taskId nodeId kind payload ended timedOut rounds) := by
  apply literal_bind uses_nowUnixSecs.literal_reads
  intro now
  apply literal_bind (literal_insertAgentTask (hentity now))
  intro accepted
  apply literal_bind (uses_inserted accepted).literal_reads
  intro _
  exact literal_waitForTask hended (literal_plainDeadline taskId timedOut) rounds

theorem literal_readEnded {α : Type} {succeeded : Json → Handler α}
    (hsucceeded : ∀ result, Literal (succeeded result)) (failed : String) (task : AgentTask)
    (outcome : Handler α) (houtcome : readEnded succeeded failed task = some outcome) :
    Literal outcome := by
  unfold readEnded at houtcome
  split at houtcome
  · rw [← Option.some.inj houtcome]
    exact hsucceeded _
  · rw [← Option.some.inj houtcome]
    exact literal_throw _
  · cases houtcome

/-! ### Runtime environments, logs and the gateway -/

theorem literal_checkRuntimeEnvironmentBeforeSave (nodeId : String)
    (request : RuntimeEnvironmentRequest) (taskId : String) (rounds : Nat) :
    Literal (checkRuntimeEnvironmentBeforeSave nodeId request taskId rounds) := by
  have hwait : Uses [.markTaskTimedOut] (waitForRuntimeCheck taskId rounds) :=
    uses_waitForRuntimeCheck List.mem_cons_self taskId rounds
  rw [checkRuntimeEnvironmentBeforeSave_eq]
  refine literal_bind ?_ fun _ => hwait.literal (by decide)
  apply literal_bind uses_nowUnixSecs.literal_reads
  intro now
  exact literal_bind (literal_insertAgentTask rfl) fun accepted =>
    (uses_inserted accepted).literal_reads

theorem literal_createRuntimeEnvironment (deps : External) (nodeId : String)
    (request : RuntimeEnvironmentRequest) (id taskId : String) (rounds : Nat) :
    Literal (createRuntimeEnvironment deps nodeId request id taskId rounds) := by
  have hcheck : Literal (checkNewRuntime nodeId request taskId rounds) := by
    unfold checkNewRuntime
    split
    · exact uses_ollamaRuntimeConfigCheck.literal_reads
    · exact literal_bind (uses_ensureNodeOnline nodeId).literal_reads fun _ =>
        literal_checkRuntimeEnvironmentBeforeSave nodeId request taskId rounds
  apply literal_bind (uses_checked _).literal_reads
  intro _
  apply literal_bind hcheck
  intro outcome
  apply literal_bind uses_nowUnixSecs.literal_reads
  intro now
  refine literal_bind (literal_execute ?_) fun accepted => ?_
  · exact trivial
  apply literal_bind (uses_inserted accepted).literal_reads
  intro _
  exact (uses_runtimeEnvironment id).literal_reads

theorem literal_checkRuntimeEnvironment (id taskId : String) (rounds : Nat) :
    Literal (checkRuntimeEnvironment id taskId rounds) := by
  apply literal_bind (uses_runtimeEnvironment id).literal_reads
  intro environment
  split
  · have hrefresh : Uses [.updateRuntimeCheck] (refreshOllamaCheck id) :=
      uses_refreshOllamaCheck List.mem_cons_self id
    exact hrefresh.literal (by decide)
  · apply literal_bind (uses_required _ _).literal_reads
    intro nodeId
    apply literal_bind (uses_nodeOnline nodeId).literal_reads
    intro online
    split
    · apply literal_bind (literal_checkRuntimeEnvironmentBeforeSave _ _ _ _)
      intro outcome
      apply literal_bind uses_nowUnixSecs.literal_reads
      intro now
      exact literal_bind (literal_execute trivial) fun _ => (uses_runtimeEnvironment id).literal_reads
    · refine literal_bind ?_ fun _ => literal_throw _
      apply literal_bind uses_nowUnixSecs.literal_reads
      intro now
      exact literal_bind (literal_execute trivial) fun _ => (uses_runtimeEnvironment id).literal_reads

theorem literal_readAgentLog (nodeId : String) (maxBytes : Nat) (taskId : String) (rounds : Nat) :
    Literal (readAgentLog nodeId maxBytes taskId rounds) := by
  apply literal_bind (uses_nodeOnline nodeId).literal_reads
  intro online
  split
  · exact literal_runReadTask (fun _ => rfl) (literal_readEnded (fun _ => literal_pure _) _) _ rounds
  · exact literal_throw _

theorem literal_refreshInstanceLogs (id taskId : String) (rounds : Nat) :
    Literal (refreshInstanceLogs id taskId rounds) := by
  apply literal_bind (uses_modelInstance id).literal_reads
  intro row
  split
  · exact literal_throw _
  · apply literal_bind (uses_required _ _).literal_reads
    intro nodeId
    apply literal_bind (uses_nodeOnline nodeId).literal_reads
    intro online
    split
    · apply literal_bind (uses_required _ _).literal_reads
      intro envId
      apply literal_bind (uses_runtimeEnvironment envId).literal_reads
      intro env
      refine literal_runReadTask (fun _ => rfl) (literal_readEnded (fun result => ?_) _) _ rounds
      apply literal_bind uses_nowUnixSecs.literal_reads
      intro now
      exact literal_bind (literal_execute trivial) fun _ => literal_pure _
    · exact literal_throw _

theorem literal_ollamaModelList (deps : External) (nodeId runtimeEnvId taskId : String)
    (rounds : Nat) : Literal (ollamaModelList deps nodeId runtimeEnvId taskId rounds) := by
  apply literal_bind (uses_nodeOnline nodeId).literal_reads
  intro online
  split
  · apply literal_bind (uses_runtimeEnvironment runtimeEnvId).literal_reads
    intro env
    exact literal_runReadTask (fun _ => rfl) (literal_readEnded (fun _ => literal_pure _) _) _ rounds
  · exact literal_throw _

/-- A gateway request is of one of five kinds, and their tasks name no row. -/
theorem entity_of_validateGatewayRequest {deps : External} {kind : TaskKind}
    {request : GatewayTaskRequest} (hvalid : validateGatewayRequest deps kind request = .ok ())
    {task : AgentTask} (hkind : task.kind = kind) : task.entity = none := by
  subst hkind
  unfold AgentTask.entity
  unfold validateGatewayRequest at hvalid
  cases hkind : task.kind <;> rw [hkind] at hvalid <;> first
    | rfl
    | cases hvalid

theorem literal_runGatewayTask (deps : External) (nodeId : String) (kind : TaskKind)
    (request : GatewayTaskRequest) (taskId : String) (rounds : Nat) :
    Literal (runGatewayTask deps nodeId kind request taskId rounds) := by
  apply literal_bind (uses_ensureNodeCanRunGatewayTask nodeId).literal_reads
  intro _
  apply literal_checked_bind
  intro _ hvalid
  refine literal_runReadTask (fun _ => entity_of_validateGatewayRequest hvalid rfl)
    (fun task outcome houtcome => ?_) _ rounds
  unfold gatewayTaskEnded at houtcome
  split at houtcome
  · rw [← Option.some.inj houtcome]
    exact (uses_checked _).literal_reads
  · rw [← Option.some.inj houtcome]
    split <;> exact literal_throw _
  · rw [← Option.some.inj houtcome]
    exact literal_throw _
  · cases houtcome

/-! ### Model files and the trash -/

theorem literal_verifyModelFileBeforeSave (nodeId path taskId : String) (rounds : Nat) :
    Literal (verifyModelFileBeforeSave nodeId path taskId rounds) := by
  have hwait : Uses [.markTaskTimedOut] (waitForModelFileVerification taskId rounds) :=
    uses_waitForModelFileVerification List.mem_cons_self taskId rounds
  rw [verifyModelFileBeforeSave_eq]
  refine literal_bind ?_ fun _ => hwait.literal (by decide)
  apply literal_bind (uses_nodeOnline nodeId).literal_reads
  intro online
  apply literal_bind (uses_rejectIf _ _).literal_reads
  intro _
  apply literal_bind uses_nowUnixSecs.literal_reads
  intro now
  exact literal_bind (literal_insertAgentTask rfl) fun accepted =>
    (uses_inserted accepted).literal_reads

theorem literal_createModelFile (modelId : String) (request : ModelFileRequest) (id taskId : String)
    (rounds : Nat) : Literal (createModelFile modelId request id taskId rounds) := by
  apply literal_bind (uses_checked _).literal_reads
  intro _
  apply literal_bind (uses_checked _).literal_reads
  intro _
  apply literal_bind (uses_ensureModelExists modelId).literal_reads
  intro _
  apply literal_bind (uses_ensureNodeExists request.nodeId).literal_reads
  intro _
  apply literal_bind (literal_verifyModelFileBeforeSave _ _ _ _)
  intro verified
  apply literal_bind uses_nowUnixSecs.literal_reads
  intro now
  refine literal_bind (literal_execute ?_) fun accepted => ?_
  · exact ⟨rfl, rfl, rfl⟩
  exact literal_bind (uses_inserted accepted).literal_reads fun _ => literal_modelFile id

theorem literal_updateModelFile (id : String) (request : ModelFileRequest) (taskId : String)
    (rounds : Nat) : Literal (updateModelFile id request taskId rounds) := by
  apply literal_bind (uses_checked _).literal_reads
  intro _
  apply literal_bind (uses_checked _).literal_reads
  intro _
  apply literal_bind (uses_ensureNodeExists request.nodeId).literal_reads
  intro _
  apply literal_bind (literal_verifyModelFileBeforeSave _ _ _ _)
  intro verified
  apply literal_bind uses_nowUnixSecs.literal_reads
  intro now
  refine literal_bind (literal_execute ?_) fun found => ?_
  · exact trivial
  split
  · exact literal_modelFile id
  · exact literal_throw _

theorem literal_queueModelFileVerification (id taskId : String) :
    Literal (queueModelFileVerification id taskId) := by
  apply literal_bind (literal_modelFile id)
  intro file
  apply literal_bind uses_nowUnixSecs.literal_reads
  intro now
  apply literal_bind (uses_nodeOnline file.nodeId).literal_reads
  intro online
  refine literal_bind (literal_execute ?_) fun accepted => ?_
  · exact rfl
  exact literal_bind (uses_inserted accepted).literal_reads fun _ => literal_modelFile id

theorem literal_ensureModelFileTrash (modelFileId : String) (reason note : Option String)
    (id : String) : Literal (ensureModelFileTrash modelFileId reason note id) := by
  apply literal_bind (uses_query _).literal_reads
  intro existingId
  cases existingId with
  | some existingId => exact (uses_modelFileTrashItem existingId).literal_reads
  | none =>
      apply literal_bind (literal_modelFile modelFileId)
      intro file
      apply literal_bind uses_nowUnixSecs.literal_reads
      intro now
      refine literal_bind (literal_execute ?_) fun accepted => ?_
      · exact ⟨rfl, rfl⟩
      exact literal_bind (uses_inserted accepted).literal_reads fun _ =>
        (uses_modelFileTrashItem id).literal_reads

theorem literal_deleteModelFile (id trashId : String) : Literal (deleteModelFile id trashId) := by
  apply literal_bind (literal_ensureModelFileTrash id _ _ trashId)
  intro _
  apply literal_bind uses_nowUnixSecs.literal_reads
  intro now
  refine literal_bind (literal_execute ?_) fun found => ?_
  · exact trivial
  split
  · exact literal_pure ()
  · exact literal_throw _

theorem literal_waitForModelFileCleanup (trashId taskId : String) (rounds : Nat) :
    Literal (waitForModelFileCleanup trashId taskId rounds) := by
  have hmark : Uses [.markTaskTimedOut] (markTaskTimedOut taskId) :=
    uses_markTaskTimedOut List.mem_cons_self taskId
  refine literal_waitForTask (fun task outcome houtcome => ?_) ?_ rounds
  · unfold cleanupEnded at houtcome
    split at houtcome
    · rw [← Option.some.inj houtcome]
      exact (uses_modelFileTrashItem trashId).literal_reads
    · rw [← Option.some.inj houtcome]
      exact literal_throw _
    · rw [← Option.some.inj houtcome]
      exact literal_throw _
    · cases houtcome
  · apply literal_bind (hmark.literal (by decide))
    intro _
    exact literal_bind (literal_updateTrashFailure trashId _ (.inr rfl)) fun _ => literal_throw _

theorem literal_cleanupModelFileTrash (id taskId : String) (rounds : Nat) :
    Literal (cleanupModelFileTrash id taskId rounds) := by
  apply literal_bind (uses_modelFileTrashItem id).literal_reads
  intro item
  apply literal_bind (uses_required _ _).literal_reads
  intro nodeId
  split
  · exact literal_pure item
  apply literal_bind (uses_nodeOnline nodeId).literal_reads
  intro online
  split
  · apply literal_bind uses_nowUnixSecs.literal_reads
    intro now
    refine literal_bind (literal_execute ?_) fun accepted => ?_
    · exact .inr ⟨id, item.path, rfl, rfl⟩
    apply literal_bind (uses_inserted accepted).literal_reads
    intro _
    exact literal_bind (literal_execute trivial) fun _ =>
      literal_waitForModelFileCleanup id taskId rounds
  · exact literal_bind (literal_updateTrashFailure id _ (.inl rfl)) fun _ => literal_throw _

theorem literal_createModelInstance (deps : External) (request : ModelInstanceCreateRequest)
    (id : String) : Literal (createModelInstance deps request id) := by
  have hstore : ∀ row : ModelInstance, (row.deployType = "local" → row.status = "stopped") →
      Literal (do inserted (← execute (.insertModelInstance row)); modelInstance id) := by
    intro row hrow
    refine literal_bind (literal_execute ?_) fun accepted => ?_
    · exact hrow
    exact literal_bind (uses_inserted accepted).literal_reads fun _ =>
      (uses_modelInstance id).literal_reads
  have hlocal : Literal (createLocalModelInstance deps request id) := by
    apply literal_bind (uses_checked _).literal_reads
    intro _
    apply literal_bind (uses_checked _).literal_reads
    intro params
    apply literal_bind (uses_required _ _).literal_reads
    intro nodeId
    apply literal_bind (uses_required _ _).literal_reads
    intro envId
    apply literal_bind (uses_runtimeEnvironment envId).literal_reads
    intro env
    apply literal_bind (uses_rejectIf _ _).literal_reads
    intro _
    apply literal_bind (uses_rejectIf _ _).literal_reads
    intro _
    apply literal_bind (uses_localInstanceModel _ _ _ _).literal_reads
    intro model
    exact literal_bind uses_nowUnixSecs.literal_reads fun now => hstore _ fun _ => rfl
  have hexternal : ∀ deployType, deployType ≠ "local" →
      Literal (createExternalModelInstance deps request deployType id) := by
    intro deployType hdeploy
    apply literal_bind (uses_checked _).literal_reads
    intro _
    apply literal_bind (uses_checked _).literal_reads
    intro _
    apply literal_bind (uses_checked _).literal_reads
    intro _
    apply literal_bind (uses_checked _).literal_reads
    intro _
    apply literal_bind (uses_checked _).literal_reads
    intro _
    apply literal_bind (uses_ensureInstanceModel _).literal_reads
    intro _
    exact literal_bind uses_nowUnixSecs.literal_reads fun now =>
      hstore _ fun hrow => absurd hrow hdeploy
  apply literal_bind (uses_checked _).literal_reads
  intro _
  apply literal_bind (uses_checked _).literal_reads
  intro _
  apply literal_bind (uses_checked _).literal_reads
  intro _
  split
  · exact hlocal
  · exact hexternal _ ‹_›

/-! ### All requests -/

theorem literal_answered {α : Type} {h : Handler α} (hliteral : Literal h) : Literal (answered h) :=
  literal_bind hliteral fun _ => literal_pure _

theorem literal_handler (deps : External) (request : Request) : Literal (request.handler deps) := by
  have hplain : request.writes ⊆ plainWrites → Literal (request.handler deps) :=
    (uses_handler deps request).literal
  have hstartStop : ∀ {kind : TaskKind} {pendingStatus : String},
      (kind, pendingStatus) ∈
        [(TaskKind.startModelInstance, "starting"), (TaskKind.stopModelInstance, "stopping")] →
      ∀ id taskId rounds,
        Literal (answered (runLocalInstanceTask deps id kind pendingStatus taskId rounds)) := by
    intro kind pendingStatus hkind id taskId rounds
    refine literal_answered (literal_runLocalInstanceTask deps id taskId rounds ?_)
    intro task now htask
    change (task.kind, pendingStatus) ∈ _
    rw [htask]
    exact List.mem_append_left _ hkind
  cases request
  case pollAgentTask =>
    exact literal_bind (literal_pollAgentTask _ _ _) fun _ => literal_pure _
  case createModelInstance => exact literal_answered (literal_createModelInstance deps _ _)
  case startModelInstance => exact hstartStop (by decide) _ _ _
  case stopModelInstance => exact hstartStop (by decide) _ _ _
  case checkModelInstance id taskId http rounds =>
    refine literal_answered (literal_bind (literal_beginCheck deps id taskId http) fun begun => ?_)
    exact literal_finishCheck id taskId rounds begun
  case testModelInstance id taskId http rounds =>
    refine literal_answered (literal_bind (literal_beginTest deps id taskId http) fun begun => ?_)
    exact literal_finishCheck id taskId rounds begun
  case refreshInstanceLogs => exact literal_answered (literal_refreshInstanceLogs _ _ _)
  case createRuntimeEnvironment =>
    exact literal_answered (literal_createRuntimeEnvironment deps _ _ _ _ _)
  case checkRuntimeEnvironment => exact literal_answered (literal_checkRuntimeEnvironment _ _ _)
  case ollamaModelList => exact literal_answered (literal_ollamaModelList deps _ _ _ _)
  case listModelFiles =>
    refine literal_answered (literal_bind (uses_ensureModelExists _).literal_reads fun _ => ?_)
    apply literal_bind (literal_modelFileRows _ _)
    intro rows
    exact literal_bind uses_nowUnixSecs.literal_reads fun now => literal_pure _
  case modelFileSummary =>
    refine literal_answered (literal_bind literal_markTimedOutTasks fun _ => ?_)
    exact literal_bind (uses_query _).literal_reads fun _ => literal_pure _
  case createModelFile => exact literal_answered (literal_createModelFile _ _ _ _ _)
  case updateModelFile => exact literal_answered (literal_updateModelFile _ _ _ _)
  case queueModelFileVerification =>
    exact literal_answered (literal_queueModelFileVerification _ _)
  case deleteModelFile => exact literal_answered (literal_deleteModelFile _ _)
  case createModelFileTrash => exact literal_answered (literal_ensureModelFileTrash _ _ _ _)
  case cleanupModelFileTrash => exact literal_answered (literal_cleanupModelFileTrash _ _ _)
  case readAgentLog => exact literal_answered (literal_readAgentLog _ _ _ _)
  case runGatewayTask => exact literal_answered (literal_runGatewayTask deps _ _ _ _ _)
  all_goals exact hplain (by simp only [Request.writes]; decide)

end LightAI.Server
