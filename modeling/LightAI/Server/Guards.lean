import LightAI.Base.Trace
import LightAI.Server.BusyInstances

/-!
# Requests that are refused while a start or a stop is in flight

The guards of these requests look at the status of the instance only. They refuse for as long as every
instance with a start or stop in flight is `running`, `starting` or `stopping`, and a result of another
task, a timeout or a heartbeat may write any other status meanwhile.
-/

namespace LightAI.Server

def TaskKind.startsOrStops : TaskKind → Bool
  | startModelInstance | stopModelInstance => true
  | _ => false

/-! ### The guards -/

def Refused {α : Type} (h : Handler α) (db : Db) : Prop :=
  ∃ message, serve h db = (.error (.conflict message), db)

/-- No request takes the instance away, renames it, or changes its parameters or its runtime
environment. A malformed request fails before the guard is asked. -/
structure ConfigurationLocked (deps : External) (db : Db) (row : ModelInstance) : Prop where
  delete : Refused (deleteModelInstance row.id) db
  update (request : ModelInstanceUpdateRequest) (hsets : request.name.isSome ∨ request.paramsJson.isSome) :
    Refused (updateModelInstance deps row.id request) db
  runtime (runtimeId : String) (hruntime : row.runtimeEnvironmentId = some runtimeId)
    (request : RuntimeEnvironmentRequest) :
    Refused (updateRuntimeEnvironment deps runtimeId request) db ∨
      ∃ e, validateRuntimeRequest deps request = .error e ∧
        serve (updateRuntimeEnvironment deps runtimeId request) db = (.error e, db)

/-- The configuration of a local instance is locked while a start or stop of it is in flight. -/
def LockedInFlight (deps : External) (s : ServerState) : Prop :=
  ∀ taskId task row, s.db.agentTasks.find? taskId = some task → task.status.isLive = true →
    task.kind.startsOrStops = true → task.entity = some (.instance row.id) →
    row ∈ s.db.modelInstances.rows → row.deployType = "local" → ConfigurationLocked deps s.db row

theorem refused_delete_iff {db : Db} {row : ModelInstance} (hrow : row ∈ db.modelInstances.rows) :
    Refused (deleteModelInstance row.id) db ↔ busyStatus row.status = true := by
  have hfind := Table.find?_of_mem hrow
  constructor
  · rintro ⟨message, hserve⟩
    by_contra hidle
    rw [serve_deleteModelInstance_of_idle hfind (by simpa using hidle)] at hserve
    exact nomatch congrArg Prod.fst hserve
  · intro hbusy
    exact ⟨_, serve_deleteModelInstance_of_busy hfind hbusy⟩

/-- The guards refuse exactly as long as the instance is busy. -/
theorem configurationLocked_iff (deps : External) {db : Db} {row : ModelInstance}
    (hrow : row ∈ db.modelInstances.rows) :
    ConfigurationLocked deps db row ↔ busyStatus row.status = true := by
  constructor
  · intro hlocked
    exact (refused_delete_iff hrow).mp hlocked.delete
  · intro hbusy
    refine ⟨(refused_delete_iff hrow).mpr hbusy, ?_, ?_⟩
    · intro request hsets
      have hchange : request.isConfigChange = true := by
        rcases hsets with hname | hparams
        · simp [ModelInstanceUpdateRequest.isConfigChange, hname]
        · simp [ModelInstanceUpdateRequest.isConfigChange, hparams]
      exact ⟨_, serve_updateModelInstance_of_busy deps (Table.find?_of_mem hrow) hbusy hchange⟩
    · intro runtimeId hruntime request
      cases hvalid : validateRuntimeRequest deps request with
      | error e =>
          right
          refine ⟨e, rfl, ?_⟩
          unfold updateRuntimeEnvironment
          rw [hvalid]
          rfl
      | ok _ =>
          left
          obtain ⟨names, hserve⟩ :=
            serve_updateRuntimeEnvironment_of_busy deps hrow hruntime hbusy hvalid
          exact ⟨_, hserve⟩

namespace Board

/-- A start or stop of the instance that is in flight. -/
def Moving (b : Board) (instanceId taskId : String) : Prop :=
  ∃ kind, b.live taskId = some (kind, instanceId) ∧ kind.startsOrStops = true

/-- Local instances with a start or stop in flight are busy. -/
def Covered (b : Board) : Prop :=
  ∀ instanceId taskId status, b.Moving instanceId taskId → b.status instanceId = some status →
    busyStatus status = true

end Board

theorem lockedInFlight_iff (deps : External) (s : ServerState) :
    LockedInFlight deps s ↔ s.db.board.Covered := by
  constructor
  · rintro hlocked instanceId taskId status ⟨kind, hlive, hmoving⟩ hstatus
    obtain ⟨task, htask, hisLive, rfl, hentity⟩ := board_live_eq_some.mp hlive
    obtain ⟨row, hrow, hlocal, rfl⟩ := board_status_eq_some.mp hstatus
    have hid : row.id = instanceId := Table.find?_key hrow
    have hmem := Table.find?_mem hrow
    rw [← hid] at hentity
    exact (configurationLocked_iff deps hmem).mp
      (hlocked taskId task row htask hisLive hmoving hentity hmem hlocal)
  · intro hcovered taskId task row htask hisLive hmoving hentity hmem hlocal
    rw [configurationLocked_iff deps hmem]
    apply hcovered row.id taskId row.status
    · exact ⟨task.kind, board_live_eq_some.mpr ⟨task, htask, hisLive, rfl, hentity⟩, hmoving⟩
    · exact board_status_eq_some.mpr ⟨row, Table.find?_of_mem hmem, hlocal, rfl⟩

/-! ### When an operation keeps them -/

/-- Every start or stop of the instance that is in flight is one of these tasks. -/
def Board.MovedOnlyBy (b : Board) (taskIds : List String) (instanceId : String) : Prop :=
  ∀ taskId, b.Moving instanceId taskId → taskId ∈ taskIds

/-- A task whose ending writes another status than `running`, `starting` or `stopping` leaves no start
or stop of its instance in flight, and a heartbeat reports every such instance as running, or does not
expect it. -/
def KeepsLocks (s : ServerState) : ServerOperation → Prop
  | .task (.pollAgentTask ..) | .task .markTimedOutTasks =>
      ∀ task ∈ s.db.swept, ∀ instanceId, task.entity = some (.instance instanceId) →
        (s.db.board.status instanceId).isSome →
        s.db.board.MovedOnlyBy (s.db.swept.map (·.id)) instanceId
  | .task (.recordAgentTaskResult taskId request) =>
      ∀ task status, recordedResult s.db taskId request = some (task, status) →
        busyStatus (nextStatus task.kind status request.result) = true ∨
          ∀ instanceId, task.entity = some (.instance instanceId) →
            (s.db.board.status instanceId).isSome → s.db.board.MovedOnlyBy [task.id] instanceId
  | .task (.waitDeadline id taskId) =>
      (id, taskId) ∈ s.waiting → s.db.liveTask taskId = true → (s.db.board.status id).isSome →
        s.db.board.MovedOnlyBy [taskId] id
  | .recordHeartbeat request =>
      (s.db.nodes.find? request.nodeId).isSome → ∀ row ∈ s.db.modelInstances.rows,
        row.deployType = "local" → row.nodeId = some request.nodeId →
        (∃ taskId, s.db.board.Moving row.id taskId) →
        match lastReport request.managedInstances row.id with
        | some report => report.status = "running"
        | none => expectsReport s.db request.nodeId row = false
  | _ => True

theorem live_after_ending (b : Board) (taskId taskId' : String) (written : Option (String × String)) :
    (b.after (.ending taskId written)).live taskId'
      = if taskId' = taskId then none else b.live taskId' := by
  have hfinish : (b.finish taskId).live taskId' = if taskId' = taskId then none else b.live taskId' := by
    change Function.update _ _ _ _ = _
    by_cases hid : taskId' = taskId
    · rw [if_pos hid, hid, Function.update_self]
    · rw [if_neg hid, Function.update_of_ne hid]
  cases written with
  | none => exact hfinish
  | some written => exact hfinish

theorem live_after_endings (b : Board) (status : String) (ended : List (String × Option String))
    (taskId : String) :
    (b.afterAll (endingsWith status ended)).live taskId
      = if taskId ∈ ended.map Prod.fst then none else b.live taskId := by
  induction ended generalizing b with
  | nil => rfl
  | cons entry ended ih =>
      refine (ih _).trans ?_
      rw [live_after_ending]
      by_cases hid : taskId = entry.1
      · have hmem : taskId ∈ (entry :: ended).map Prod.fst := by
          rw [hid]
          exact List.mem_cons_self
        rw [if_pos hid, if_pos hmem]
        split <;> rfl
      · rw [if_neg hid]
        simp only [List.map_cons, List.mem_cons, hid, false_or]

theorem covered_iff_busy (b : Board) : b.Covered ↔ b.Busy fun instanceId => ∃ taskId, b.Moving instanceId taskId := by
  constructor
  · rintro hcovered instanceId status ⟨taskId, hmoving⟩ hstatus
    exact hcovered instanceId taskId status hmoving hstatus
  · intro hbusy instanceId taskId status hmoving hstatus
    exact hbusy instanceId status ⟨taskId, hmoving⟩ hstatus

/-- Tasks end together: the locks stay if what is written is busy, or if no other start or stop of these
instances is left. -/
theorem covered_after_endings {b : Board} (hb : b.Covered) (status : String)
    (ended : List (String × Option String)) :
    (b.afterAll (endingsWith status ended)).Covered ↔
      busyStatus status = true ∨ ∀ entry ∈ ended, ∀ instanceId, entry.2 = some instanceId →
        (b.status instanceId).isSome → b.MovedOnlyBy (ended.map Prod.fst) instanceId := by
  -- The starts and stops that are left are those that do not end.
  have hkept : ∀ instanceId, (∃ taskId, (b.afterAll (endingsWith status ended)).Moving instanceId taskId) ↔
      ¬ b.MovedOnlyBy (ended.map Prod.fst) instanceId := by
    intro instanceId
    simp only [Board.Moving, Board.MovedOnlyBy, live_after_endings, not_forall]
    constructor
    · rintro ⟨taskId, kind, hlive, hmoves⟩
      by_cases hmem : taskId ∈ ended.map Prod.fst
      · simp [hmem] at hlive
      · rw [if_neg hmem] at hlive
        exact ⟨taskId, ⟨kind, hlive, hmoves⟩, hmem⟩
    · rintro ⟨taskId, ⟨kind, hlive, hmoves⟩, hmem⟩
      exact ⟨taskId, kind, by rw [if_neg hmem, hlive], hmoves⟩
  have hbefore : b.Busy fun instanceId => ¬ b.MovedOnlyBy (ended.map Prod.fst) instanceId := by
    intro instanceId before hmoved hstatus
    simp only [Board.MovedOnlyBy, not_forall] at hmoved
    obtain ⟨taskId, hmoving, -⟩ := hmoved
    exact hb instanceId taskId before hmoving hstatus
  rw [covered_iff_busy]
  simp only [hkept]
  rw [busy_after_endings hbefore]
  simp only [not_not]

theorem covered_after_sweep {db : Db} (hdb : db.board.Covered) :
    (db.board.afterAll (sweepChanges db)).Covered ↔
      ∀ task ∈ db.swept, ∀ instanceId, task.entity = some (.instance instanceId) →
        (db.board.status instanceId).isSome →
        db.board.MovedOnlyBy (db.swept.map (·.id)) instanceId := by
  have hfailed : ¬ busyStatus "failed" = true := by decide
  have hids : (db.swept.map fun task => (task.id, task.target)).map Prod.fst
      = db.swept.map (·.id) := by
    rw [List.map_map]
    rfl
  rw [sweepChanges_eq, covered_after_endings hdb, hids, or_iff_right hfailed]
  simp only [List.forall_mem_map, target_eq_some]

theorem covered_after_result {db : Db} (hdb : db.board.Covered) (task : AgentTask)
    (status : ResultStatus) (result : Json) :
    (db.board.afterAll (resultChanges task status result)).Covered ↔
      busyStatus (nextStatus task.kind status result) = true ∨
        ∀ instanceId, task.entity = some (.instance instanceId) →
          (db.board.status instanceId).isSome → db.board.MovedOnlyBy [task.id] instanceId := by
  unfold resultChanges
  by_cases hcommits : task.resultCommits = true
  · have hchanges : [.ending task.id (task.writes (nextStatus task.kind status result))]
        = endingsWith (nextStatus task.kind status result) [(task.id, task.target)] := by
      rw [writes_eq]
      rfl
    rw [if_pos hcommits, hchanges, covered_after_endings hdb]
    simp only [List.mem_singleton, forall_eq, target_eq_some, List.map_singleton]
  · have hnone : ∀ instanceId, task.entity ≠ some (.instance instanceId) := by
      intro instanceId hentity
      exact hcommits (resultCommits_of_entity hentity)
    rw [if_neg hcommits]
    refine iff_of_true hdb (.inr ?_)
    intro instanceId hentity
    exact absurd hentity (hnone instanceId)

theorem covered_after_record {db : Db} (hdb : db.board.Covered) (taskId : String)
    (request : AgentTaskResultRequest) :
    (db.board.afterAll (recordChanges db taskId request)).Covered ↔
      ∀ task status, recordedResult db taskId request = some (task, status) →
        busyStatus (nextStatus task.kind status request.result) = true ∨
          ∀ instanceId, task.entity = some (.instance instanceId) →
            (db.board.status instanceId).isSome → db.board.MovedOnlyBy [task.id] instanceId := by
  unfold recordChanges
  cases hrecorded : recordedResult db taskId request with
  | none => exact iff_of_true hdb fun task status h => (Option.some_ne_none _ h.symm).elim
  | some recorded =>
      obtain ⟨task, status⟩ := recorded
      rw [covered_after_result hdb]
      constructor
      · intro hok task' status' heq
        obtain ⟨rfl, rfl⟩ := Prod.mk.inj (Option.some.inj heq)
        exact hok
      · intro hok
        exact hok task status rfl

theorem covered_after_deadline {db : Db} (hdb : db.board.Covered) (id taskId : String) :
    (db.board.afterAll (deadlineChanges db id taskId)).Covered ↔
      (db.liveTask taskId = true → (db.board.status id).isSome →
        db.board.MovedOnlyBy [taskId] id) := by
  unfold deadlineChanges
  by_cases hlive : db.liveTask taskId = true
  · have hfailed : ¬ busyStatus "failed" = true := by decide
    have hchanges : [.ending taskId (some (id, "failed"))]
        = endingsWith "failed" [(taskId, some id)] := rfl
    rw [if_pos hlive, hchanges, covered_after_endings hdb, or_iff_right hfailed]
    simp [hlive]
  · rw [if_neg hlive]
    exact iff_of_true hdb fun h => absurd h hlive

theorem covered_after_wait {db : Db} (hdb : db.board.Covered) (waiting : List (String × String))
    (id taskId : String) :
    (db.board.afterAll
        (if (id, taskId) ∈ waiting then deadlineChanges db id taskId else [])).Covered ↔
      ((id, taskId) ∈ waiting → db.liveTask taskId = true → (db.board.status id).isSome →
        db.board.MovedOnlyBy [taskId] id) := by
  by_cases hwaits : (id, taskId) ∈ waiting
  · rw [if_pos hwaits, covered_after_deadline hdb]
    constructor
    · intro hok _
      exact hok
    · intro hok
      exact hok hwaits
  · rw [if_neg hwaits]
    exact iff_of_true hdb fun h => absurd h hwaits

theorem covered_after_heartbeat {db : Db} (hdb : db.board.Covered) (request : HeartbeatRequest) :
    (db.board.afterAll (heartbeatChanges db request)).Covered ↔
      ((db.nodes.find? request.nodeId).isSome → ∀ row ∈ db.modelInstances.rows,
        row.deployType = "local" → row.nodeId = some request.nodeId →
        (∃ taskId, db.board.Moving row.id taskId) →
        match lastReport request.managedInstances row.id with
        | some report => report.status = "running"
        | none => expectsReport db request.nodeId row = false) := by
  have hkept : ∀ instanceId taskId,
      (db.board.afterAll (heartbeatChanges db request)).Moving instanceId taskId
        ↔ db.board.Moving instanceId taskId := by
    intro instanceId taskId
    unfold Board.Moving
    rw [live_after_heartbeat]
  rw [covered_iff_busy] at hdb ⊢
  simp only [hkept]
  exact busy_after_heartbeat hdb request

theorem covered_after_enqueue {b : Board} (hb : b.Covered) {id pendingStatus : String}
    (hbusy : busyStatus pendingStatus = true) (kind : TaskKind) (taskId : String) (enqueued : Bool) :
    (b.afterAll (enqueueChanges id kind pendingStatus taskId enqueued)).Covered := by
  cases enqueued with
  | false => exact hb
  | true =>
      intro instanceId taskId' status hmoving hstatus
      change (b.after (.enqueue taskId kind id pendingStatus)).status instanceId = some status at hstatus
      by_cases hid : instanceId = id
      · rw [hid] at hstatus
        obtain ⟨_, -, rfl⟩ := Option.map_eq_some_iff.mp
          ((Function.update_self id _ b.status).symm.trans hstatus)
        exact hbusy
      · have hbefore : b.status instanceId = some status :=
          (Function.update_of_ne hid _ _).symm.trans hstatus
        obtain ⟨kind', hlive, hmoves⟩ := hmoving
        have hne : taskId' ≠ taskId := by
          rintro rfl
          have hself : (b.after (.enqueue taskId' kind id pendingStatus)).live taskId' = some (kind, id) :=
            Function.update_self ..
          have heq := Option.some.inj (hself.symm.trans hlive)
          exact hid (congrArg Prod.snd heq).symm
        have hlive' : b.live taskId' = some (kind', instanceId) :=
          (Function.update_of_ne hne _ _).symm.trans hlive
        exact hb instanceId taskId' status ⟨kind', hlive', hmoves⟩ hbefore

theorem covered_after_delete {db : Db} (hdb : db.board.Covered) (id : String) :
    (db.board.afterAll (ServerOperation.deleteChanges db id)).Covered := by
  have hlive : (db.board.afterAll (ServerOperation.deleteChanges db id)).live = db.board.live := by
    unfold ServerOperation.deleteChanges
    split <;> rfl
  rw [covered_iff_busy] at hdb ⊢
  simp only [Board.Moving, hlive]
  exact busy_after_delete hdb id

theorem covered_perform_iff (deps : External) (s : ServerState) (op : ServerOperation)
    (hs : s.db.board.Covered) : (op.perform deps s).db.board.Covered ↔ KeepsLocks s op := by
  rw [ServerOperation.board_perform]
  cases op with
  | task op =>
      cases op with
      | startModelInstance id taskId =>
          exact iff_of_true (covered_after_enqueue hs (by decide) _ _ _) trivial
      | stopModelInstance id taskId =>
          exact iff_of_true (covered_after_enqueue hs (by decide) _ _ _) trivial
      | checkModelInstance id taskId http =>
          exact iff_of_true (covered_after_enqueue hs (by decide) _ _ _) trivial
      | testModelInstance id taskId http =>
          exact iff_of_true (covered_after_enqueue hs (by decide) _ _ _) trivial
      | pollAgentTask nodeId currentConfigVersion => exact covered_after_sweep hs
      | markTimedOutTasks => exact covered_after_sweep hs
      | recordAgentTaskResult taskId request => exact covered_after_record hs taskId request
      | waitDeadline id taskId => exact covered_after_wait hs s.waiting id taskId
      | act action => exact iff_of_true hs trivial
  | updateModelInstance id request => exact iff_of_true hs trivial
  | deleteModelInstance id => exact iff_of_true (covered_after_delete hs id) trivial
  | updateRuntimeEnvironment id request => exact iff_of_true hs trivial
  | recordHeartbeat request => exact covered_after_heartbeat hs request

/-! ### In every run -/

/-- The server before any task has been enqueued. -/
def idleServer (db : Db) : ServerState := { db := { db with agentTasks := .empty } }

theorem locked_in_flight_iff (deps : External) (db : Db) (ops : List ServerOperation) :
    Trace.Always (fun s op => ServerOperation.perform deps s op) (LockedInFlight deps) (idleServer db) ops
      ↔ Trace.Along (fun s op => ServerOperation.perform deps s op) KeepsLocks (idleServer db) ops := by
  apply @Trace.always_iff_along _ _ _ _ (fun _ => True) _ (fun _ _ _ => trivial) ?_ _ _ trivial
  · rintro taskId task row htask
    exact nomatch htask
  · intro s op _ hs
    rw [lockedInFlight_iff] at hs ⊢
    exact covered_perform_iff deps s op hs

/-! ### A heartbeat while a start is queued -/

/-- A node with one local instance, stopped, of a backend whose processes the agent manages. -/
def vllmDb : Db :=
  { clock := 1000
    nodes := oneNode
    runtimeEnvironments :=
      ⟨[{ id := "r", nodeId := some "n", name := "runtime", backend := "vllm"
          deployType := "binary", checkStatus := some "available", createdAt := 0
          updatedAt := 0 }], by decide⟩
    modelFiles :=
      ⟨[{ id := "f", modelId := "m", nodeId := "n", path := "/models/m", status := "verified"
          createdAt := 0, updatedAt := 0 }], by decide⟩
    modelInstances :=
      ⟨[{ id := "i", nodeId := some "n", runtimeEnvironmentId := some "r", name := "chat"
          modelFileId := some "f", backend := "vllm", deployType := "local", status := "stopped"
          createdAt := 0, updatedAt := 0 }], by decide⟩ }

/-- The agent has not polled the start yet, so its heartbeat reports no instance. -/
def queuedStartOps : List ServerOperation :=
  [.task (.startModelInstance "i" "t"), .recordHeartbeat { nodeId := "n", sampledAt := 1000 }]

theorem queued_start_unlocked :
    ¬ Trace.Always (fun s op => ServerOperation.perform noExternal s op) (LockedInFlight noExternal)
      (idleServer vllmDb) queuedStartOps := by
  intro hlocked
  have hlast := hlocked queuedStartOps [] (List.append_nil _).symm
  rw [lockedInFlight_iff] at hlast
  have hbusy : busyStatus "failed" = true :=
    hlast "i" "t" "failed" ⟨.startModelInstance, by rfl, rfl⟩ (by rfl)
  exact absurd hbusy (by decide)

end LightAI.Server
