import LightAI.Server.Literals
import LightAI.Server.Platform
import LightAI.Server.SweepingRequests

/-!
# Requests that enqueue a task for no row

The logs, the model list, the gateway, the check of a runtime environment and the verification before a
save each enqueue a task whose payload names no stored row, with the time that they have just read. What
holds of reading the time and of such an insertion holds of these requests up to their wait, whatever it
is that is followed: the walk over them is made once, here.
-/

namespace LightAI.Server

/-- A property of sequences that an insertion of a task for no row has, where the task carries a time that
was read. `Now` is what is known of the times that are read. -/
structure Enqueues (P : (α : Type) → Handler α → Prop) (writes : List Write) (Now : Int → Prop) : Prop
    extends Composes P writes where
  now : ∀ {α : Type} {f : Int → Handler α}, (∀ now, Now now → P α (f now)) → P α (nowUnixSecs >>= f)
  insert : ∀ task : NewAgentTask, Now task.now → task.row.entity = none →
    task.row.resultCommits = true → P _ (execute (.insertAgentTask task))

section Enqueues

variable {P : (α : Type) → Handler α → Prop} {writes : List Write} {Now : Int → Prop}

theorem Enqueues.insertAgentTask (hP : Enqueues P writes Now) {task : NewAgentTask}
    (hnow : Now task.now) (hentity : task.row.entity = none)
    (hcommits : task.row.resultCommits = true) :
    P _ (do inserted (← execute (.insertAgentTask task))) := by
  apply hP.bind (hP.insert task hnow hentity hcommits)
  intro accepted
  exact hP.reads (uses_inserted accepted)

theorem Enqueues.runReadTask (hP : Enqueues P writes Now) (hmark : .markTaskTimedOut ∈ writes)
    {α : Type} {taskId nodeId : String} {kind : TaskKind} {payload : Json}
    {ended : AgentTask → Option (Handler α)} (hentity : ∀ now, AgentTask.entity
      (NewAgentTask.row { id := taskId, nodeId, kind, payloadJson := payload, now }) = none)
    (hcommits : ∀ now, AgentTask.resultCommits
      (NewAgentTask.row { id := taskId, nodeId, kind, payloadJson := payload, now }) = true)
    (hended : ∀ task outcome, ended task = some outcome → Uses writes outcome)
    (timedOut : DomainError) (rounds : Nat) :
    P _ (runReadTask taskId nodeId kind payload ended timedOut rounds) := by
  apply hP.now
  intro now hnow
  apply hP.bind (hP.insert _ hnow (hentity now) (hcommits now))
  intro accepted
  apply hP.reads_bind (uses_inserted accepted)
  intro _
  refine hP.waitForTask (fun task outcome houtcome => hP.uses (hended task outcome houtcome)) ?_ rounds
  exact hP.uses (uses_plainDeadline hmark taskId timedOut)

theorem Enqueues.readAgentLog (hP : Enqueues P writes Now) (hmark : .markTaskTimedOut ∈ writes)
    (nodeId : String) (maxBytes : Nat) (taskId : String) (rounds : Nat) :
    P _ (readAgentLog nodeId maxBytes taskId rounds) := by
  apply hP.reads_bind (uses_nodeOnline nodeId)
  intro online
  split
  · exact hP.runReadTask hmark (fun _ => rfl) (fun _ => rfl) (uses_readEnded (fun _ => uses_pure _) _) _ rounds
  · exact hP.reads (uses_throw _)

theorem Enqueues.refreshInstanceLogs (hP : Enqueues P writes Now) (hmark : .markTaskTimedOut ∈ writes)
    (htail : .setInstanceLogTail ∈ writes) (id taskId : String) (rounds : Nat) :
    P _ (refreshInstanceLogs id taskId rounds) := by
  apply hP.reads_bind (uses_modelInstance id)
  intro row
  split
  · exact hP.reads (uses_throw _)
  · apply hP.reads_bind (uses_required _ _)
    intro nodeId
    apply hP.reads_bind (uses_nodeOnline nodeId)
    intro online
    split
    · apply hP.reads_bind (uses_required _ _)
      intro envId
      apply hP.reads_bind (uses_runtimeEnvironment envId)
      intro env
      refine hP.runReadTask hmark (fun _ => rfl) (fun _ => rfl) (uses_readEnded (fun result => ?_) _) _ rounds
      apply uses_bind uses_nowUnixSecs
      intro now
      exact uses_bind (uses_execute rfl htail) fun _ => uses_pure _
    · exact hP.reads (uses_throw _)

theorem Enqueues.ollamaModelList (hP : Enqueues P writes Now) (hmark : .markTaskTimedOut ∈ writes)
    (deps : External) (nodeId runtimeEnvId taskId : String) (rounds : Nat) :
    P _ (ollamaModelList deps nodeId runtimeEnvId taskId rounds) := by
  apply hP.reads_bind (uses_nodeOnline nodeId)
  intro online
  split
  · apply hP.reads_bind (uses_runtimeEnvironment runtimeEnvId)
    intro env
    exact hP.runReadTask hmark (fun _ => rfl) (fun _ => rfl) (uses_readEnded (fun _ => uses_pure _) _) _ rounds
  · exact hP.reads (uses_throw _)

/-- A gateway request is of one of five kinds, whose results write no row. -/
theorem resultCommits_of_validateGatewayRequest {deps : External} {kind : TaskKind}
    {request : GatewayTaskRequest} (hvalid : validateGatewayRequest deps kind request = .ok ())
    {task : AgentTask} (hkind : task.kind = kind) : task.resultCommits = true := by
  subst hkind
  unfold AgentTask.resultCommits
  unfold validateGatewayRequest at hvalid
  cases hkind : task.kind <;> rw [hkind] at hvalid <;> first
    | rfl
    | cases hvalid

theorem Enqueues.runGatewayTask (hP : Enqueues P writes Now) (hmark : .markTaskTimedOut ∈ writes)
    (deps : External) (nodeId : String) (kind : TaskKind) (request : GatewayTaskRequest)
    (taskId : String) (rounds : Nat) :
    P _ (runGatewayTask deps nodeId kind request taskId rounds) := by
  apply hP.reads_bind (uses_ensureNodeCanRunGatewayTask nodeId)
  intro _
  cases hvalid : validateGatewayRequest deps kind request with
  | error e => exact hP.reads (uses_throw e)
  | ok u =>
      refine hP.runReadTask hmark (fun _ => entity_of_validateGatewayRequest hvalid rfl)
        (fun _ => resultCommits_of_validateGatewayRequest hvalid rfl) ?_ _ rounds
      intro task outcome houtcome
      unfold gatewayTaskEnded at houtcome
      split at houtcome
      · rw [← Option.some.inj houtcome]
        exact uses_checked _
      · rw [← Option.some.inj houtcome]
        split <;> exact uses_throw _
      · rw [← Option.some.inj houtcome]
        exact uses_throw _
      · cases houtcome

/-! ### Runtime environments and files -/

theorem Enqueues.enqueueRuntimeCheck (hP : Enqueues P writes Now) (nodeId : String)
    (request : RuntimeEnvironmentRequest) (taskId : String) :
    P _ (enqueueRuntimeCheck nodeId request taskId) := by
  apply hP.now
  intro now hnow
  exact hP.insertAgentTask hnow rfl rfl

theorem Enqueues.enqueueVerification (hP : Enqueues P writes Now) (nodeId path taskId : String) :
    P _ (enqueueVerification nodeId path taskId) := by
  apply hP.reads_bind (uses_nodeOnline nodeId)
  intro online
  apply hP.reads_bind (uses_rejectIf _ _)
  intro _
  apply hP.now
  intro now hnow
  exact hP.insertAgentTask hnow rfl rfl

theorem Enqueues.beginRuntimeCreation (hP : Enqueues P writes Now) (hinsert : .insertRuntime ∈ writes)
    (deps : External) (nodeId : String) (request : RuntimeEnvironmentRequest) (id taskId : String) :
    P _ (beginRuntimeCreation deps nodeId request id taskId) := by
  apply hP.reads_bind (uses_checked _)
  intro _
  split
  · apply hP.reads_bind uses_ollamaRuntimeConfigCheck
    intro outcome
    have hrow : Uses writes (insertNewRuntime nodeId request id outcome) :=
      uses_insertNewRuntime hinsert nodeId request id outcome
    exact hP.bind (hP.uses hrow) fun row => hP.reads (uses_pure _)
  · apply hP.reads_bind (uses_ensureNodeOnline nodeId)
    intro _
    apply hP.bind (hP.enqueueRuntimeCheck nodeId request taskId)
    intro _
    exact hP.reads (uses_pure _)

theorem Enqueues.beginRuntimeCheck (hP : Enqueues P writes Now) (hupdate : .updateRuntimeCheck ∈ writes)
    (id taskId : String) : P _ (beginRuntimeCheck id taskId) := by
  have hcheck : ∀ status message, Uses writes (updateRuntimeEnvironmentCheck id status message) := by
    intro status message
    apply uses_bind uses_nowUnixSecs
    intro now
    exact uses_bind (uses_execute rfl hupdate) fun _ => uses_runtimeEnvironment id
  apply hP.reads_bind (uses_runtimeEnvironment id)
  intro environment
  split
  · have hrefresh : Uses writes (refreshOllamaCheck id) := uses_refreshOllamaCheck hupdate id
    exact hP.bind (hP.uses hrefresh) fun row => hP.reads (uses_pure _)
  · apply hP.reads_bind (uses_required _ _)
    intro nodeId
    apply hP.reads_bind (uses_nodeOnline nodeId)
    intro online
    split
    · apply hP.bind (hP.enqueueRuntimeCheck nodeId _ taskId)
      intro _
      exact hP.reads (uses_pure _)
    · exact hP.bind (hP.uses (hcheck _ _)) fun _ => hP.reads (uses_throw _)

theorem Enqueues.beginFileCreation (hP : Enqueues P writes Now) (modelId : String)
    (request : ModelFileRequest) (taskId : String) : P _ (beginFileCreation modelId request taskId) := by
  apply hP.reads_bind (uses_checked _)
  intro _
  apply hP.reads_bind (uses_checked _)
  intro _
  apply hP.reads_bind (uses_ensureModelExists modelId)
  intro _
  apply hP.reads_bind (uses_ensureNodeExists request.nodeId)
  intro _
  exact hP.enqueueVerification _ _ _

theorem Enqueues.beginFileUpdate (hP : Enqueues P writes Now) (request : ModelFileRequest)
    (taskId : String) : P _ (beginFileUpdate request taskId) := by
  apply hP.reads_bind (uses_checked _)
  intro _
  apply hP.reads_bind (uses_checked _)
  intro _
  apply hP.reads_bind (uses_ensureNodeExists request.nodeId)
  intro _
  exact hP.enqueueVerification _ _ _

theorem Enqueues.beginModelCreation (hP : Enqueues P writes Now) (deps : External)
    (request : ModelRequest) (taskId : String) : P _ (beginModelCreation deps request taskId) := by
  apply hP.reads_bind (uses_initialModelFile deps request)
  intro initialFile
  exact hP.enqueueVerification _ _ _

end Enqueues

/-! ### Checks and tests of instances -/

section Checks

variable {P : (α : Type) → Handler α → Prop} {writes : List Write}

variable (hP : Composes P writes) (hupdate : .updateInstanceCheck ∈ writes) (deps : External)
  (id taskId : String) (http : HttpOutcome)
  (henqueue : ∀ kind : TaskKind, kind.isInstanceTask = true →
    P _ (enqueueLocalInstanceTask deps id kind "running" taskId))

include hP hupdate henqueue

theorem Composes.beginCheck : P _ (beginCheck deps id taskId http) := by
  have hcheck : ∀ status error, Uses writes (updateInstanceCheck id status error) :=
    fun status error => uses_updateInstanceCheck hupdate id status error
  apply hP.reads_bind (uses_modelInstance id)
  intro row
  split
  · split
    · exact hP.reads (uses_pure _)
    · apply hP.reads_bind (uses_required _ _)
      intro nodeId
      apply hP.reads_bind (uses_nodeOnline nodeId)
      intro online
      split
      · apply hP.bind (henqueue .checkModelInstance rfl)
        intro _
        exact hP.reads (uses_pure _)
      · exact hP.bind (hP.uses (hcheck _ _)) fun _ => hP.reads (uses_pure _)
  · refine hP.bind ?_ fun view => hP.reads (uses_pure _)
    unfold checkExternalInstance
    split
    · exact hP.uses (hcheck _ _)
    · exact hP.uses (hcheck _ _)

theorem Composes.beginTest : P _ (beginTest deps id taskId http) := by
  apply hP.reads_bind (uses_modelInstance id)
  intro row
  split
  · exact hP.beginCheck hupdate deps id taskId http henqueue
  split
  · exact hP.reads (uses_throw _)
  · apply hP.bind (henqueue .testModelInstance rfl)
    intro _
    exact hP.reads (uses_pure _)

end Checks

/-! ### The wait for a cleanup -/

theorem uses_cleanupWait {writes : List Write} (hmark : .markTaskTimedOut ∈ writes)
    (htrash : .updateTrashFailure ∈ writes) (id taskId : String) (rounds : Nat) :
    Uses writes (waitForModelFileCleanup id taskId rounds) := by
  refine uses_waitForTask (fun task outcome houtcome => ?_) ?_ rounds
  · unfold cleanupEnded at houtcome
    split at houtcome
    · rw [← Option.some.inj houtcome]
      exact uses_modelFileTrashItem id
    · rw [← Option.some.inj houtcome]
      exact uses_throw _
    · rw [← Option.some.inj houtcome]
      exact uses_throw _
    · cases houtcome
  · apply uses_bind (uses_markTaskTimedOut hmark taskId)
    intro _
    exact uses_bind (uses_updateTrashFailure htrash id _ _) fun _ => uses_throw _

/-! ### The parts of a request -/

section Parts

variable {P : (α : Type) → Handler α → Prop} {writes : List Write} {α : Type}

theorem Composes.answered (hP : Composes P writes) {h : Handler α} (hh : P _ h) : P _ (answered h) :=
  hP.bind hh fun _ => hP.reads (uses_pure _)

theorem Composes.ended (hP : Composes P writes) {h : Handler Response} (hh : P _ h) : P _ (ended h) :=
  hP.bind hh fun _ => hP.reads (uses_pure _)

theorem Composes.waits (hP : Composes P writes) {h : Handler Unit} (hh : P _ h) : P _ (waits h) :=
  hP.bind hh fun _ => hP.reads (uses_pure _)

theorem Composes.waitsUnless (hP : Composes P writes) {h : Handler (Option α)} (hh : P _ h) :
    P _ (waitsUnless h) :=
  hP.bind hh fun _ => hP.reads (uses_pure _)

end Parts

/-! ### All requests -/

/-- The kinds of writes that neither enqueue a task nor record a result. -/
def quietWrites : List Write :=
  [.claimAgentTask, .markTaskTimedOut, .setFileVerifying, .setFileVerifyTimeout, .expireModelFile,
    .insertModelFile, .updateModelFile, .deleteModelFile, .insertTrash, .setTrashCleanupRunning,
    .setTrashCleanupPending, .updateTrashFailure, .deleteTrash, .insertModelInstance,
    .updateInstanceCheck, .updateLocalInstance, .updateExternalInstance, .deleteModelInstance,
    .setInstanceLogTail, .insertRuntime, .updateRuntime, .setRuntimeChecked, .updateRuntimeCheck,
    .deleteRuntime, .recordHeartbeat]

section All

variable {P : (α : Type) → Handler α → Prop} {writes : List Write} {Now : Int → Prop}

/-- A request up to its wait, where the tasks for a row and the results are followed on their own. -/
theorem Enqueues.begin (hP : Enqueues P writes Now) (hquiet : quietWrites ⊆ writes) (deps : External)
    (hinstance : ∀ id kind pendingStatus taskId, kind.isInstanceTask = true →
      P _ (enqueueLocalInstanceTask deps id kind pendingStatus taskId))
    (hverification : ∀ id taskId, P _ (queueModelFileVerification id taskId))
    (hcleanup : ∀ id taskId, P _ (beginCleanup id taskId))
    (hresult : ∀ taskId request, P _ (recordAgentTaskResult taskId request)) (request : Request) :
    P _ (request.begin deps) := by
  have hmark : .markTaskTimedOut ∈ writes := hquiet (by decide)
  have hupdate : .updateInstanceCheck ∈ writes := hquiet (by decide)
  have hother : request.writes ⊆ quietWrites → P _ (request.begin deps) :=
    fun hsub => hP.uses ((uses_begin deps request).mono (List.Subset.trans hsub hquiet))
  cases request
  case recordAgentTaskResult => exact hP.ended (hP.answered (hresult _ _))
  case startModelInstance => exact hP.waits (hinstance _ _ _ _ rfl)
  case stopModelInstance => exact hP.waits (hinstance _ _ _ _ rfl)
  case checkModelInstance id taskId http rounds =>
      refine hP.waitsUnless (hP.beginCheck hupdate deps id taskId http fun kind hkind => ?_)
      exact hinstance id kind "running" taskId hkind
  case testModelInstance id taskId http rounds =>
      refine hP.waitsUnless (hP.beginTest hupdate deps id taskId http fun kind hkind => ?_)
      exact hinstance id kind "running" taskId hkind
  case refreshInstanceLogs =>
      exact hP.ended (hP.answered (hP.refreshInstanceLogs hmark (hquiet (by decide)) _ _ _))
  case createRuntimeEnvironment =>
      exact hP.waitsUnless (hP.beginRuntimeCreation (hquiet (by decide)) deps _ _ _ _)
  case checkRuntimeEnvironment =>
      exact hP.waitsUnless (hP.beginRuntimeCheck (hquiet (by decide)) _ _)
  case ollamaModelList => exact hP.ended (hP.answered (hP.ollamaModelList hmark deps _ _ _ _))
  case createModelFile => exact hP.waits (hP.beginFileCreation _ _ _)
  case updateModelFile => exact hP.waits (hP.beginFileUpdate _ _)
  case queueModelFileVerification => exact hP.ended (hP.answered (hverification _ _))
  case cleanupModelFileTrash => exact hP.waitsUnless (hcleanup _ _)
  case readAgentLog => exact hP.ended (hP.answered (hP.readAgentLog hmark _ _ _ _))
  case runGatewayTask => exact hP.ended (hP.answered (hP.runGatewayTask hmark deps _ _ _ _ _))
  all_goals exact hother (by simp only [Request.writes]; decide)

/-- What follows a wait enqueues nothing and records no result. -/
theorem quiet_finish (request : Request) : Uses quietWrites request.finish := by
  have hwait : ∀ id taskId rounds, Uses quietWrites (waitForModelInstanceTask id taskId rounds) :=
    uses_waitForModelInstanceTask (by decide)
  have hruntime : ∀ taskId rounds, Uses quietWrites (waitForRuntimeCheck taskId rounds) :=
    uses_waitForRuntimeCheck (by decide)
  have hverification : ∀ taskId rounds, Uses quietWrites (waitForModelFileVerification taskId rounds) :=
    uses_waitForModelFileVerification (by decide)
  cases request
  all_goals try exact uses_pure _
  case startModelInstance => exact uses_answered (hwait _ _ _)
  case stopModelInstance => exact uses_answered (hwait _ _ _)
  case checkModelInstance => exact uses_answered (hwait _ _ _)
  case testModelInstance => exact uses_answered (hwait _ _ _)
  case createRuntimeEnvironment =>
      refine uses_answered (uses_bind (hruntime _ _) fun outcome => ?_)
      exact uses_insertNewRuntime (by decide) _ _ _ outcome
  case checkRuntimeEnvironment id taskId rounds =>
      refine uses_answered (uses_bind (hruntime _ _) fun outcome => uses_bind uses_nowUnixSecs ?_)
      intro now
      exact uses_bind (uses_execute rfl (by decide)) fun _ => uses_runtimeEnvironment id
  case createModelFile modelId request id taskId rounds =>
      refine uses_answered (uses_bind (hverification _ _) fun verified => uses_bind uses_nowUnixSecs ?_)
      intro now
      refine uses_bind (uses_execute rfl (by decide)) fun _ => uses_bind (uses_inserted _) fun _ => ?_
      exact uses_modelFile (by decide) id
  case updateModelFile id request taskId rounds =>
      refine uses_answered (uses_bind (hverification _ _) fun verified => uses_bind uses_nowUnixSecs ?_)
      intro now
      refine uses_bind (uses_execute rfl (by decide)) fun _ => ?_
      split
      · exact uses_modelFile (by decide) id
      · exact uses_throw _
  case cleanupModelFileTrash =>
      exact uses_answered (uses_cleanupWait (by decide) (by decide) _ _ _)

end All

end LightAI.Server
