import LightAI.Server.InstanceRows
import LightAI.Server.Interference
import LightAI.Server.SweepingRequests

/-!
# The statuses of instances

The statuses that users may give to an instance are those of a list. The server itself writes no other,
and maps what a heartbeat reports; the status in the result of a task it writes as it comes.
-/

namespace LightAI.Server

open Interleaving

/-- The status is one that `validate_instance_status` accepts. -/
def DeclaredStatus (status : String) : Prop := validateInstanceStatus status = .ok ()

instance (status : String) : Decidable (DeclaredStatus status) :=
  match h : validateInstanceStatus status with
  | .ok () => isTrue h
  | .error e => isFalse fun hok => by
      rw [DeclaredStatus, h] at hok
      cases hok

def AllDeclared (db : Db) : Prop := ∀ row ∈ db.modelInstances.rows, DeclaredStatus row.status

/-- A result that is recorded for a task of an instance that is there gives no status of the instance, or
a declared one. -/
def ReportsDeclared (c : ServerConfig) (e : ServerEvent) : Prop :=
  ∀ t selected status result now row reported,
    System.performed c e = some (t, .recordResult selected status result now) →
    row ∈ c.shared.modelInstances.rows → selected.entity = some (.instance row.id) →
    result.getStr "instance_status" = some reported → DeclaredStatus reported

/-! ### Statements -/

/-- The status that the statement writes is a declared one, the results of tasks aside. -/
def Stmt.Declares : Stmt → Prop
  | insertModelInstance row => DeclaredStatus row.status
  | enqueueInstanceTask _ _ pendingStatus _ => DeclaredStatus pendingStatus
  | updateInstanceCheck _ status _ _ => DeclaredStatus status
  | updateExternalInstance _ update _ => DeclaredStatus update.status
  | _ => True

theorem declared_mappedStatus (status : String) : DeclaredStatus (mappedStatus status) := by
  have hall : ∀ status ∈ ["running", "stopped", "failed"], DeclaredStatus status := by decide
  unfold mappedStatus
  split
  · rename_i hmem
    exact hall status hmem
  · exact hall "failed" (by decide)

theorem declared_reconciledRow (db : Db) (nodeId : String) (reports : List ManagedInstanceReport)
    (now : Int) {row : ModelInstance} (hrow : DeclaredStatus row.status) :
    DeclaredStatus (reconciledRow db nodeId reports now row).status := by
  unfold reconciledRow
  split
  · exact (by decide : DeclaredStatus "failed")
  · by_cases htaken : row.isLocalOn nodeId ∧ (lastReport reports row.id).isSome = true
    · obtain ⟨hlocal, hsome⟩ := htaken
      obtain ⟨report, hlast⟩ := Option.isSome_iff_exists.mp hsome
      rw [(reportedRow_of_taken now hlocal hlast).1]
      exact declared_mappedStatus report.status
    · rw [reportedRow_of_untaken now htaken]
      exact hrow

theorem declared_nextStatus {kind : TaskKind} {status : ResultStatus} {result : Json}
    (hreported : ∀ reported, result.getStr "instance_status" = some reported → DeclaredStatus reported) :
    DeclaredStatus (nextStatus kind status result) := by
  unfold nextStatus
  cases hresult : result.getStr "instance_status" with
  | some reported => exact hreported reported hresult
  | none =>
      have hdefault : ∀ status ∈ ["stopped", "running", "failed"], DeclaredStatus status := by decide
      rw [Option.getD_none]
      split
      · split
        · exact hdefault "stopped" (by decide)
        · exact hdefault "running" (by decide)
      · exact hdefault "failed" (by decide)

/-- A statement that declares keeps all statuses declared, if what a result reports is declared. -/
theorem allDeclared_exec {stmt : Stmt} {db : Db} (hdeclares : stmt.Declares) (hall : AllDeclared db)
    (hresult : ∀ selected status result now row reported,
      stmt = .recordResult selected status result now → row ∈ db.modelInstances.rows →
      selected.entity = some (.instance row.id) → result.getStr "instance_status" = some reported →
      DeclaredStatus reported) : AllDeclared (stmt.exec db).2 := by
  intro row' hmem
  rcases modelInstances_exec stmt db hmem with rfl | ⟨row, hrow, hrewrites⟩
  · exact hdeclares
  · have hdeclared := hall row hrow
    cases hrewrites with
    | kept => exact hdeclared
    | pending task status now => exact hdeclares
    | check status error now => exact hdeclares
    | updateLocal update now => exact hdeclared
    | updateExternal update now => exact hdeclares
    | setLogTail logTail now => exact hdeclared
    | result selected status result now _ hnames =>
        exact declared_nextStatus fun reported =>
          hresult selected status result now row reported rfl hrow hnames
    | reported request now db' => exact declared_reconciledRow db' _ _ now hdeclared

/-- The row of an instance after the result of its task. -/
theorem find?_recordResult {db : Db} {row : ModelInstance} {selected : AgentTask}
    (status : ResultStatus) (result : Json) (now : Int) (hrow : row ∈ db.modelInstances.rows)
    (hnames : selected.entity = some (.instance row.id)) :
    ((Stmt.recordResult selected status result now).exec db).2.modelInstances.find? row.id
      = some (row.applyResult selected.kind status result now) := by
  have hwritten := Table.find?_update_self db.modelInstances row.id
    (·.applyResult selected.kind status result now) fun _ => rfl
  rw [Table.find?_of_mem hrow, Option.map_some] at hwritten
  rw [exec_recordResult_modelInstances, hnames]
  exact hwritten

/-! ### Requests -/

section Declaring

variable {α β : Type}

/-- As long as the others keep all statuses declared, the handler writes declared ones. -/
def Declaring (h : Handler α) : Prop :=
  ∀ done db, Safe (fun _ db' => AllDeclared db') (fun _ _ stmt => stmt.Declares)
    (fun _ _ _ => True) done db h

/-- The kinds of writes that set no status, or that of a report or of a result. -/
def undeclaringWrites : List Write :=
  [.insertAgentTask, .enqueueFileVerification, .claimAgentTask, .markTaskTimedOut, .recordResult,
    .setFileVerifying, .setFileVerifyTimeout, .expireModelFile, .insertModelFile, .updateModelFile,
    .deleteModelFile, .insertTrash, .setTrashCleanupRunning, .setTrashCleanupPending,
    .updateTrashFailure, .deleteTrash, .updateLocalInstance, .deleteModelInstance,
    .setInstanceLogTail, .insertRuntime, .updateRuntime, .setRuntimeChecked, .updateRuntimeCheck,
    .deleteRuntime, .recordHeartbeat]

theorem declares_of_among {stmt : Stmt} (h : stmt.Among undeclaringWrites) : stmt.Declares := by
  cases stmt with
  | insertModelInstance row => exact absurd (h _ rfl) (by decide)
  | enqueueInstanceTask task id status now => exact absurd (h _ rfl) (by decide)
  | updateInstanceCheck id status error now => exact absurd (h _ rfl) (by decide)
  | updateExternalInstance id update now => exact absurd (h _ rfl) (by decide)
  | _ => trivial

theorem declaring_bind {h : Handler α} {f : α → Handler β} (hh : Declaring h)
    (hf : ∀ a, Declaring (f a)) : Declaring (h >>= f) := by
  intro done db
  exact safe_bind (fun _ _ _ => True) (hh done db) (fun _ _ _ _ => trivial)
    fun done db a _ => hf a done db

theorem composes_declaring : Composes (fun _ h => Declaring h) undeclaringWrites where
  uses huses := fun _ _ =>
    huses.safe (fun _ _ => True) (fun _ _ _ _ _ => trivial)
      (fun _ _ _ _ hamong => ⟨declares_of_among hamong, trivial⟩) trivial
  bind := declaring_bind

theorem declaring_execute {stmt : Stmt} (h : stmt.Declares) : Declaring (execute stmt) :=
  fun _ _ => safe_execute (fun _ _ => h) fun _ _ => trivial

theorem declaring_updateInstanceCheck (id : String) {status : String} (error : Option String)
    (h : DeclaredStatus status) : Declaring (updateInstanceCheck id status error) := by
  apply composes_declaring.reads_bind uses_nowUnixSecs
  intro now
  have hwrite : (Stmt.updateInstanceCheck id status error now).Declares := h
  apply declaring_bind (declaring_execute hwrite)
  intro _
  exact composes_declaring.reads (uses_modelInstance id)

/-- What follows a read of an instance finds its status declared. -/
theorem declaring_modelInstance_bind (id : String) {f : ModelInstanceView → Handler β}
    (hf : ∀ view, DeclaredStatus view.status → Declaring (f view)) :
    Declaring (modelInstance id >>= f) := by
  intro done db
  have hread : Safe (fun _ db' => AllDeclared db') (fun _ _ stmt => stmt.Declares)
      (IfOk fun _ _ view => DeclaredStatus view.status) done db (modelInstance id) := by
    refine safe_then (fun _ _ found => ∀ view, found = some view → DeclaredStatus view.status)
      (safe_query (fun _ _ _ => trivial) fun db' hall view hview => ?_) fun done db found hfound => ?_
    · obtain ⟨row, hrow, rfl⟩ := Option.map_eq_some_iff.mp hview
      exact hall row (Table.find?_mem hrow)
    · refine safe_then (fun _ _ view => DeclaredStatus view.status) ?_ fun done db view hview => ?_
      · cases found with
        | none => exact safe_throw trivial
        | some view => exact safe_pure (hfound view rfl)
      · exact safe_then (fun _ _ _ => True)
          (safe_query (fun _ _ _ => trivial) fun _ _ => trivial) fun done db now _ => safe_pure hview
  exact safe_bind _ hread (fun _ _ _ _ => trivial) fun done db view hview => hf view hview done db

theorem declaring_applyTimeout (task : AgentTask) (now : Int) : Declaring (applyTimeout task now) := by
  unfold applyTimeout
  split
  · cases task.payloadJson.getStr "model_file_id" with
    | none => exact composes_declaring.reads (uses_pure ())
    | some fileId => exact declaring_execute trivial
  · cases task.payloadJson.getStr "trash_id" with
    | none => exact composes_declaring.reads (uses_pure ())
    | some trashId => exact composes_declaring.uses (uses_updateTrashFailure (by decide) trashId _ _)
  all_goals first
    | exact composes_declaring.reads (uses_pure ())
    | cases task.payloadJson.getStr "instance_id" with
      | none => exact composes_declaring.reads (uses_pure ())
      | some instanceId =>
          apply declaring_bind (declaring_updateInstanceCheck instanceId _ (by decide))
          intro _
          exact composes_declaring.reads (uses_pure ())

theorem declaring_markTimedOutTasks : Declaring markTimedOutTasks := by
  have hloop : ∀ now tasks, Declaring (timeOutTasks now tasks) := by
    intro now tasks
    induction tasks with
    | nil => exact composes_declaring.reads (uses_pure ())
    | cons task tasks ih =>
        apply declaring_bind (composes_declaring.uses (uses_markTaskTimedOut (by decide) task.id))
        intro _
        apply declaring_bind (declaring_applyTimeout task now)
        intro _
        exact ih
  apply composes_declaring.reads_bind uses_nowUnixSecs
  intro now
  apply composes_declaring.reads_bind (uses_query _)
  intro tasks
  exact hloop now tasks

theorem declaring_modelFileRows (modelId fileId : Option String) :
    Declaring (modelFileRows modelId fileId) := by
  have hexpire : ∀ now rows, Declaring (expireModelFiles now rows) := by
    intro now rows
    induction rows with
    | nil => exact composes_declaring.reads (uses_pure ())
    | cons row rows ih =>
        unfold expireModelFiles
        split
        · exact declaring_bind (declaring_execute trivial) fun _ => ih
        · exact ih
  apply declaring_bind declaring_markTimedOutTasks
  intro _
  apply composes_declaring.reads_bind uses_nowUnixSecs
  intro now
  apply composes_declaring.reads_bind (uses_query _)
  intro rows
  apply declaring_bind (hexpire now rows)
  intro _
  exact composes_declaring.reads (uses_pure rows)

end Declaring

/-! ### Requests about instances -/

theorem declaring_createModelInstance (deps : External) (request : ModelInstanceCreateRequest)
    (id : String) : Declaring (createModelInstance deps request id) := by
  have hread : ∀ {β : Type} {h : Handler β}, Uses [] h → Declaring h :=
    fun huses => composes_declaring.reads huses
  have hend : ∀ row : ModelInstance, DeclaredStatus row.status → Declaring (do
      inserted (← execute (.insertModelInstance row))
      modelInstance id) := by
    intro row hrow
    have hwrite : (Stmt.insertModelInstance row).Declares := hrow
    apply declaring_bind (declaring_execute hwrite)
    intro accepted
    apply declaring_bind (hread (uses_inserted _))
    intro _
    exact hread (uses_modelInstance id)
  unfold createModelInstance
  apply declaring_bind (hread (uses_checked _))
  intro _
  cases hstatus : validateInstanceStatus (request.status.getD "unknown") with
  | error e => exact hread (uses_throw e)
  | ok _ =>
      apply declaring_bind (hread (uses_checked _))
      intro _
      apply declaring_bind (hread (uses_checked _))
      intro _
      split
      · apply declaring_bind (hread (uses_checked _))
        intro _
        apply declaring_bind (hread (uses_checked _))
        intro params
        apply declaring_bind (hread (uses_required _ _))
        intro nodeId
        apply declaring_bind (hread (uses_required _ _))
        intro envId
        apply declaring_bind (hread (uses_runtimeEnvironment _))
        intro env
        apply declaring_bind (hread (uses_rejectIf _ _))
        intro _
        apply declaring_bind (hread (uses_rejectIf _ _))
        intro _
        apply declaring_bind (hread (uses_localInstanceModel _ _ _ _))
        intro model
        apply declaring_bind (hread uses_nowUnixSecs)
        intro now
        exact hend _ (by decide : DeclaredStatus "stopped")
      · apply declaring_bind (hread (uses_checked _))
        intro _
        apply declaring_bind (hread (uses_checked _))
        intro _
        apply declaring_bind (hread (uses_checked _))
        intro _
        apply declaring_bind (hread (uses_checked _))
        intro _
        apply declaring_bind (hread (uses_checked _))
        intro _
        apply declaring_bind (hread (uses_ensureInstanceModel _))
        intro _
        apply declaring_bind (hread uses_nowUnixSecs)
        intro now
        exact hend _ hstatus

theorem declaring_updateModelInstance (deps : External) (id : String)
    (request : ModelInstanceUpdateRequest) : Declaring (updateModelInstance deps id request) := by
  have hread : ∀ {β : Type} {h : Handler β}, Uses [] h → Declaring h :=
    fun huses => composes_declaring.reads huses
  unfold updateModelInstance
  apply declaring_bind (hread (uses_modelInstance id))
  intro current
  split
  · exact hread (uses_throw _)
  split
  · have huses : Uses [.updateLocalInstance] (updateLocalModelInstance deps id request current) := by
      apply uses_bind (uses_checked _)
      intro _
      apply uses_bind (uses_checked _)
      intro _
      apply uses_bind uses_nowUnixSecs
      intro now
      exact uses_bind (uses_execute rfl (by decide)) fun _ => uses_modelInstance id
    exact composes_declaring.uses (huses.mono (by decide))
  · unfold updateExternalModelInstance
    apply declaring_bind (hread (uses_checked _))
    intro _
    dsimp only
    cases hstatus : validateInstanceStatus (request.status.getD current.status) with
    | error e => exact hread (uses_throw e)
    | ok _ =>
        apply declaring_bind (hread (uses_checked _))
        intro _
        apply declaring_bind (hread (uses_checked _))
        intro _
        apply declaring_bind (hread (uses_checked _))
        intro _
        apply declaring_bind (hread (uses_checked _))
        intro _
        apply declaring_bind (hread (uses_checked _))
        intro _
        apply declaring_bind (hread (uses_checked _))
        intro _
        apply declaring_bind (hread uses_nowUnixSecs)
        intro now
        apply declaring_bind (declaring_execute ?_)
        · intro _
          exact hread (uses_modelInstance id)
        · exact hstatus

theorem declaring_enqueueLocalInstanceTask (deps : External) (id : String) (kind : TaskKind)
    {pendingStatus : String} (hpending : DeclaredStatus pendingStatus) (taskId : String) :
    Declaring (enqueueLocalInstanceTask deps id kind pendingStatus taskId) := by
  have hread : ∀ {β : Type} {h : Handler β}, Uses [] h → Declaring h :=
    fun huses => composes_declaring.reads huses
  apply declaring_bind (hread (uses_modelInstance id))
  intro row
  apply declaring_bind (hread (uses_rejectIf _ _))
  intro _
  apply declaring_bind (hread (uses_required _ _))
  intro nodeId
  apply declaring_bind (hread (uses_nodeOnline nodeId))
  intro online
  apply declaring_bind (hread (uses_rejectIf _ _))
  intro _
  apply declaring_bind (hread (uses_required _ _))
  intro envId
  apply declaring_bind (hread (uses_runtimeEnvironment envId))
  intro env
  apply declaring_bind (hread (uses_rejectIf _ _))
  intro _
  apply declaring_bind (hread (uses_checked _))
  intro params
  apply declaring_bind (hread uses_nowUnixSecs)
  intro now
  apply declaring_bind (hread (uses_instanceTaskFile row env))
  intro file
  apply declaring_bind (declaring_execute ?_)
  · intro accepted
    exact hread (uses_inserted accepted)
  · exact hpending

theorem declaring_waitForModelInstanceTask (id taskId : String) (rounds : Nat) :
    Declaring (waitForModelInstanceTask id taskId rounds) := by
  have hread : ∀ {β : Type} {h : Handler β}, Uses [] h → Declaring h :=
    fun huses => composes_declaring.reads huses
  apply composes_declaring.waitForTask
  · intro task outcome houtcome
    unfold instanceTaskEnded at houtcome
    split at houtcome
    · rw [← Option.some.inj houtcome]
      exact hread (uses_modelInstance id)
    · rw [← Option.some.inj houtcome]
      exact hread (uses_throw _)
    · rw [← Option.some.inj houtcome]
      exact hread (uses_throw _)
    · cases houtcome
  · apply declaring_bind (composes_declaring.uses (uses_markTaskTimedOut (by decide) taskId))
    intro _
    apply declaring_bind (declaring_updateInstanceCheck id _ (by decide))
    intro _
    exact hread (uses_throw _)

theorem declared_checkUrl (http : HttpOutcome) : DeclaredStatus (checkUrl http).status := by
  have hall : ∀ status ∈ ["running", "failed"], DeclaredStatus status := by decide
  unfold checkUrl
  split
  · split
    · exact hall "running" (by decide)
    · exact hall "failed" (by decide)
  · exact hall "failed" (by decide)

/-- A check of an offline node writes back the status that it has read. -/
theorem declaring_beginCheck (deps : External) (id taskId : String) (http : HttpOutcome) :
    Declaring (beginCheck deps id taskId http) := by
  have hread : ∀ {β : Type} {h : Handler β}, Uses [] h → Declaring h :=
    fun huses => composes_declaring.reads huses
  apply declaring_modelInstance_bind
  intro row hstatus
  split
  · split
    · exact hread (uses_pure _)
    · apply declaring_bind (hread (uses_required _ _))
      intro nodeId
      apply declaring_bind (hread (uses_nodeOnline nodeId))
      intro online
      split
      · apply declaring_bind
          (declaring_enqueueLocalInstanceTask deps id .checkModelInstance (by decide) taskId)
        intro _
        exact hread (uses_pure _)
      · apply declaring_bind (declaring_updateInstanceCheck id _ hstatus)
        intro view
        exact hread (uses_pure _)
  · apply declaring_bind
    · unfold checkExternalInstance
      split
      · exact declaring_updateInstanceCheck id _ (by decide)
      · exact declaring_updateInstanceCheck id _ (declared_checkUrl http)
    · intro view
      exact hread (uses_pure _)

theorem declaring_finishCheck (id taskId : String) (rounds : Nat) (begun : Option ModelInstanceView) :
    Declaring (finishCheck id taskId rounds begun) := by
  cases begun with
  | some view => exact composes_declaring.reads (uses_pure view)
  | none => exact declaring_waitForModelInstanceTask id taskId rounds

theorem declaring_testModelInstance (deps : External) (id taskId : String) (http : HttpOutcome)
    (rounds : Nat) : Declaring (testModelInstance deps id taskId http rounds) := by
  have hread : ∀ {β : Type} {h : Handler β}, Uses [] h → Declaring h :=
    fun huses => composes_declaring.reads huses
  have hbegin : Declaring (beginTest deps id taskId http) := by
    apply declaring_bind (hread (uses_modelInstance id))
    intro row
    split
    · exact declaring_beginCheck deps id taskId http
    · split
      · exact hread (uses_throw _)
      · apply declaring_bind
          (declaring_enqueueLocalInstanceTask deps id .testModelInstance (by decide) taskId)
        intro _
        exact hread (uses_pure _)
  apply declaring_bind hbegin
  intro begun
  exact declaring_finishCheck id taskId rounds begun

theorem declaring_runLocalInstanceTask (deps : External) (id : String) (kind : TaskKind)
    {pendingStatus : String} (hpending : DeclaredStatus pendingStatus) (taskId : String)
    (rounds : Nat) : Declaring (runLocalInstanceTask deps id kind pendingStatus taskId rounds) := by
  apply declaring_bind (declaring_enqueueLocalInstanceTask deps id kind hpending taskId)
  intro _
  exact declaring_waitForModelInstanceTask id taskId rounds

/-- Whatever the other requests do, a request writes declared statuses, results aside. -/
theorem declaring_handler (deps : External) (request : Request) : Declaring (request.handler deps) := by
  have hanswered : ∀ {α : Type} {h : Handler α}, Declaring h → Declaring (answered h) :=
    fun hdeclaring => declaring_bind hdeclaring fun _ => composes_declaring.reads (uses_pure _)
  have hother : request.writes ⊆ undeclaringWrites → Declaring (request.handler deps) :=
    fun hsub => composes_declaring.uses ((uses_handler deps request).mono hsub)
  cases request
  case pollAgentTask nodeId version waits =>
      exact declaring_bind (composes_declaring.pollAgentTask declaring_markTimedOutTasks (by decide)
        nodeId version waits) fun _ => composes_declaring.reads (uses_pure _)
  case createModelInstance => exact hanswered (declaring_createModelInstance deps _ _)
  case updateModelInstance => exact hanswered (declaring_updateModelInstance deps _ _)
  case startModelInstance =>
      exact hanswered (declaring_runLocalInstanceTask deps _ _ (by decide) _ _)
  case stopModelInstance =>
      exact hanswered (declaring_runLocalInstanceTask deps _ _ (by decide) _ _)
  case checkModelInstance =>
      exact hanswered (declaring_bind (declaring_beginCheck deps _ _ _)
        fun begun => declaring_finishCheck _ _ _ begun)
  case testModelInstance => exact hanswered (declaring_testModelInstance deps _ _ _ _)
  case listModelFiles =>
      exact hanswered (composes_declaring.listModelFiles declaring_modelFileRows _)
  case modelFileSummary =>
      exact hanswered (composes_declaring.modelFileSummary declaring_markTimedOutTasks _)
  case createModelFile =>
      exact hanswered (composes_declaring.createModelFile declaring_modelFileRows (by decide)
        (fun _ _ => declaring_execute trivial) _ _ _ _ _)
  case updateModelFile =>
      exact hanswered (composes_declaring.updateModelFile declaring_modelFileRows (by decide)
        (by decide) _ _ _ _)
  case queueModelFileVerification =>
      exact hanswered (composes_declaring.queueModelFileVerification declaring_modelFileRows
        (by decide) _ _)
  case deleteModelFile =>
      exact hanswered (composes_declaring.deleteModelFile declaring_modelFileRows (by decide)
        (by decide) _ _)
  case createModelFileTrash =>
      exact hanswered (composes_declaring.ensureModelFileTrash declaring_modelFileRows (by decide)
        _ _ _ _)
  all_goals
    apply hother
    simp only [Request.writes]
    decide

/-! ### When all statuses stay declared -/

/-- Each request under way goes on to write declared statuses, as long as those that are stored are. -/
def Declarers (deps : External) (c : ServerConfig) : Prop :=
  System.AllRobust (server deps) (fun _ db' => AllDeclared db') (fun _ _ stmt => stmt.Declares)
    (fun _ _ _ => True) c

theorem allDeclared_apply_iff {deps : External} {c : ServerConfig} (hdeclarers : Declarers deps c)
    (hall : AllDeclared c.shared) (e : ServerEvent) :
    AllDeclared ((server deps).apply c e).shared ↔ ReportsDeclared c e := by
  rcases System.apply_shared (M := server deps) c e with
    ⟨t, stmt, hperf, hshared⟩ | ⟨hnone, action, hshared⟩ | ⟨hnone, hshared⟩
  · have hshared' : ((server deps).apply c e).shared = (stmt.exec c.shared).2 := hshared
    have hdeclares : stmt.Declares :=
      System.AllRobust.performed_of_rely hall hdeclarers hperf
    rw [hshared']
    constructor
    · intro hafter t' selected status result now row reported hperf' hrow hnames hreported
      rw [hperf] at hperf'
      obtain ⟨-, rfl⟩ := Prod.mk.inj (Option.some.inj hperf')
      have hdeclared := hafter _ (Table.find?_mem (find?_recordResult status result now hrow hnames))
      have hstatus : (row.applyResult selected.kind status result now).status = reported := by
        change (result.getStr "instance_status").getD _ = reported
        rw [hreported, Option.getD_some]
      rwa [hstatus] at hdeclared
    · intro hreports
      apply allDeclared_exec hdeclares hall
      intro selected status result now row reported hstmt
      subst hstmt
      exact hreports t selected status result now row reported hperf
  · have hshared' : ((server deps).apply c e).shared = action.act c.shared := hshared
    rw [hshared']
    refine iff_of_true (by cases action <;> exact hall) ?_
    intro t selected status result now row reported hperf
    rw [hnone] at hperf
    cases hperf
  · rw [hshared]
    refine iff_of_true hall ?_
    intro t selected status result now row reported hperf
    rw [hnone] at hperf
    cases hperf

/-- In a run that starts without instances every status is a declared one, exactly if every result that
is recorded for an instance reports none or a declared one. -/
theorem always_declared_iff (deps : External) (db : Db) (events : List ServerEvent) :
    Trace.Always (server deps).apply (fun c => AllDeclared c.shared)
        { shared := { db with modelInstances := .empty } } events ↔
      Trace.Along (server deps).apply ReportsDeclared
        { shared := { db with modelInstances := .empty } } events := by
  have hkept : ∀ c e, Declarers deps c → AllDeclared c.shared →
      Declarers deps ((server deps).apply c e) := fun c e hdeclarers hall =>
    System.allRobust_apply_of_inv (fun request db => declaring_handler deps request [] db) c e hall
      hdeclarers
  have hstep : ∀ c e, Declarers deps c → AllDeclared c.shared →
      (AllDeclared ((server deps).apply c e).shared ↔ ReportsDeclared c e) :=
    fun c e hdeclarers hall => allDeclared_apply_iff hdeclarers hall e
  refine Trace.always_iff_along_within hkept hstep ?_ ?_
  · intro t ht
    cases ht
  · intro row hmem
    cases hmem

/-! ### A result with a status of its own -/

def loadingResult : AgentTaskResultRequest where
  nodeId := "n"
  status := "succeeded"
  result := .obj [("instance_status", .str "loading")]

def newInstance : ModelInstanceCreateRequest where
  name := "chat"
  deployType := some "local"
  nodeId := some "n"
  runtimeEnvironmentId := some "r"
  modelFileId := some "f"

/-- An instance is created and started, and the result of the start gives a status that is not declared. -/
def oddResult : List ServerEvent :=
  .spawn (.createModelInstance newInstance "i") :: List.replicate 11 (.step 0)
    ++ .spawn (.startModelInstance "i" "t" 1) :: List.replicate 9 (.step 1)
    ++ .spawn (.recordAgentTaskResult "t" loadingResult) :: List.replicate 3 (.step 2)

theorem odd_status_stored :
    ¬ Trace.Always (server noExternal).apply (fun c => AllDeclared c.shared)
      { shared := { readyDb with modelInstances := .empty } } oddResult := by
  intro hall
  have hlast := hall oddResult [] (List.append_nil _).symm
  have hstored : (Trace.run (server noExternal).apply
      { shared := { readyDb with modelInstances := .empty } } oddResult).shared.modelInstances.rows.map
        (·.status) = ["loading"] := by rfl
  obtain ⟨row, hrow, hstatus⟩ := List.mem_map.mp (hstored ▸ List.mem_cons_self)
  have hdeclared := hlast row hrow
  rw [hstatus] at hdeclared
  exact absurd hdeclared (by decide)

end LightAI.Server
