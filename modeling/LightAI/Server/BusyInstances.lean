import LightAI.Server.Operations

/-!
# Instances that have to be busy

A local instance is busy while it is `running`, `starting` or `stopping`. Which instances have to be is
decided elsewhere: those with a start or stop in flight, or those whose process runs. For any such
instances the same operations matter, those that write another status.
-/

namespace LightAI.Server

/-- Local instances of which something is held are busy. -/
def Board.Busy (held : String → Prop) (b : Board) : Prop :=
  ∀ instanceId status, held instanceId → b.status instanceId = some status → busyStatus status = true

/-- The endings of several tasks, which write one and the same status. -/
def endingsWith (status : String) (ended : List (String × Option String)) : List Change :=
  ended.map fun entry => .ending entry.1 (entry.2.map (·, status))

theorem status_after_endings (b : Board) (status : String) (ended : List (String × Option String))
    (instanceId : String) :
    (b.afterAll (endingsWith status ended)).status instanceId
      = if some instanceId ∈ ended.map Prod.snd then (b.status instanceId).map fun _ => status
        else b.status instanceId := by
  induction ended generalizing b with
  | nil => rfl
  | cons entry ended ih =>
      refine (ih _).trans ?_
      have hwrite : (b.after (.ending entry.1 (entry.2.map (·, status)))).status instanceId
          = if some instanceId = entry.2 then (b.status instanceId).map fun _ => status
            else b.status instanceId := by
        cases htarget : entry.2 with
        | none => rfl
        | some instanceId' =>
            change Function.update _ instanceId' _ instanceId = _
            by_cases hid : instanceId = instanceId'
            · rw [if_pos (congrArg some hid), hid, Function.update_self]
              rfl
            · rw [if_neg fun h => hid (Option.some.inj h), Function.update_of_ne hid]
              rfl
      rw [hwrite]
      by_cases hid : some instanceId = entry.2
      · have hmem : some instanceId ∈ (entry :: ended).map Prod.snd := by
          rw [hid]
          exact List.mem_cons_self
        rw [if_pos hid, if_pos hmem, Option.map_map]
        split <;> rfl
      · rw [if_neg hid]
        simp only [List.map_cons, List.mem_cons, hid, false_or]

theorem sweepChanges_eq (db : Db) :
    sweepChanges db = endingsWith "failed" (db.swept.map fun task => (task.id, task.target)) := by
  unfold sweepChanges endingsWith
  rw [List.map_map]
  apply List.map_congr_left
  intro task _
  rw [timeoutChange, writes_eq]
  rfl

theorem busyStatus_reportStatus {status : String} :
    busyStatus (reportStatus status) = true ↔ status = "running" := by
  unfold reportStatus
  split <;> simp_all [busyStatus]

section Boards

variable {held : String → Prop} {b : Board} {db : Db}

theorem busy_after_endings (hb : b.Busy held) (status : String) (ended : List (String × Option String)) :
    (b.afterAll (endingsWith status ended)).Busy held ↔
      busyStatus status = true ∨ ∀ entry ∈ ended, ∀ instanceId, entry.2 = some instanceId →
        (b.status instanceId).isSome → ¬ held instanceId := by
  constructor
  · intro hafter
    by_cases hbusy : busyStatus status = true
    · exact Or.inl hbusy
    right
    intro entry hentry instanceId hinstance hlocal hheld
    have hwritten : some instanceId ∈ ended.map Prod.snd := by
      rw [← hinstance]
      exact List.mem_map_of_mem hentry
    obtain ⟨before, hbefore⟩ := Option.isSome_iff_exists.mp hlocal
    apply hbusy
    apply hafter instanceId status hheld
    rw [status_after_endings, if_pos hwritten, hbefore]
    rfl
  · intro hok instanceId status' hheld hstatus
    rw [status_after_endings] at hstatus
    by_cases hwritten : some instanceId ∈ ended.map Prod.snd
    · rw [if_pos hwritten] at hstatus
      obtain ⟨before, hbefore, rfl⟩ := Option.map_eq_some_iff.mp hstatus
      rcases hok with hbusy | hnone
      · exact hbusy
      · obtain ⟨entry, hentry, hinstance⟩ := List.mem_map.mp hwritten
        have hlocal : (b.status instanceId).isSome = true := by rw [hbefore]; rfl
        exact absurd hheld (hnone entry hentry instanceId hinstance hlocal)
    · rw [if_neg hwritten] at hstatus
      exact hb instanceId status' hheld hstatus

theorem busy_after_sweep (hdb : db.board.Busy held) :
    (db.board.afterAll (sweepChanges db)).Busy held ↔
      ∀ task ∈ db.swept, ∀ instanceId, task.entity = some (.instance instanceId) →
        (db.board.status instanceId).isSome → ¬ held instanceId := by
  have hfailed : ¬ busyStatus "failed" = true := by decide
  rw [sweepChanges_eq, busy_after_endings hdb, or_iff_right hfailed]
  simp only [List.forall_mem_map, target_eq_some]

theorem busy_after_record (hdb : db.board.Busy held) (taskId : String)
    (request : AgentTaskResultRequest) :
    (db.board.afterAll (recordChanges db taskId request)).Busy held ↔
      ∀ task status, recordedResult db taskId request = some (task, status) →
        busyStatus (nextStatus task.kind status request.result) = true ∨
          ∀ instanceId, task.entity = some (.instance instanceId) →
            (db.board.status instanceId).isSome → ¬ held instanceId := by
  unfold recordChanges
  cases hrecorded : recordedResult db taskId request with
  | none => exact iff_of_true hdb fun task status h => (Option.some_ne_none _ h.symm).elim
  | some recorded =>
      obtain ⟨task, status⟩ := recorded
      have hone : (db.board.afterAll (resultChanges task status request.result)).Busy held ↔
          busyStatus (nextStatus task.kind status request.result) = true ∨
            ∀ instanceId, task.entity = some (.instance instanceId) →
              (db.board.status instanceId).isSome → ¬ held instanceId := by
        unfold resultChanges
        by_cases hcommits : task.resultCommits = true
        · have hchanges : [Change.ending task.id
              (task.writes (nextStatus task.kind status request.result))]
              = endingsWith (nextStatus task.kind status request.result) [(task.id, task.target)] := by
            rw [writes_eq]
            rfl
          rw [if_pos hcommits, hchanges, busy_after_endings hdb]
          simp only [List.mem_singleton, forall_eq, target_eq_some]
        · rw [if_neg hcommits]
          refine iff_of_true hdb (Or.inr ?_)
          intro instanceId hentity
          exact absurd (resultCommits_of_entity hentity) hcommits
      constructor
      · intro hok task' status' heq
        obtain ⟨rfl, rfl⟩ := Prod.mk.inj (Option.some.inj heq)
        exact hone.mp hok
      · intro hok
        exact hone.mpr (hok task status rfl)

theorem busy_after_wait (hdb : db.board.Busy held) (waiting : List (String × String)) (id taskId : String) :
    (db.board.afterAll
        (if (id, taskId) ∈ waiting then deadlineChanges db id taskId else [])).Busy held ↔
      ((id, taskId) ∈ waiting → db.liveTask taskId = true → (db.board.status id).isSome → ¬ held id) := by
  by_cases hwaits : (id, taskId) ∈ waiting
  · rw [if_pos hwaits]
    unfold deadlineChanges
    by_cases hlive : db.liveTask taskId = true
    · have hfailed : ¬ busyStatus "failed" = true := by decide
      have hchanges : [Change.ending taskId (some (id, "failed"))]
          = endingsWith "failed" [(taskId, some id)] := rfl
      rw [if_pos hlive, hchanges, busy_after_endings hdb, or_iff_right hfailed]
      simp [hwaits, hlive]
    · rw [if_neg hlive]
      exact iff_of_true hdb fun _ h => absurd h hlive
  · rw [if_neg hwaits]
    exact iff_of_true hdb fun h => absurd h hwaits

theorem busy_after_enqueue (hb : b.Busy held) {id pendingStatus : String}
    (hbusy : busyStatus pendingStatus = true) (kind : TaskKind) (taskId : String) (enqueued : Bool) :
    (b.afterAll (enqueueChanges id kind pendingStatus taskId enqueued)).Busy held := by
  cases enqueued with
  | false => exact hb
  | true =>
      intro instanceId status hheld hstatus
      change (b.after (.enqueue taskId kind id pendingStatus)).status instanceId = some status at hstatus
      by_cases hid : instanceId = id
      · rw [hid] at hstatus
        obtain ⟨_, -, rfl⟩ := Option.map_eq_some_iff.mp
          ((Function.update_self id _ b.status).symm.trans hstatus)
        exact hbusy
      · exact hb instanceId status hheld ((Function.update_of_ne hid _ _).symm.trans hstatus)

theorem busy_after_delete (hdb : db.board.Busy held) (id : String) :
    (db.board.afterAll (ServerOperation.deleteChanges db id)).Busy held := by
  unfold ServerOperation.deleteChanges
  split
  · intro instanceId status hheld hstatus
    change Function.update db.board.status id none instanceId = some status at hstatus
    by_cases hid : instanceId = id
    · rw [hid, Function.update_self] at hstatus
      cases hstatus
    · rw [Function.update_of_ne hid] at hstatus
      exact hdb instanceId status hheld hstatus
  · exact hdb

theorem busy_after_heartbeat (hdb : db.board.Busy held) (request : HeartbeatRequest) :
    (db.board.afterAll (heartbeatChanges db request)).Busy held ↔
      ((db.nodes.find? request.nodeId).isSome → ∀ row ∈ db.modelInstances.rows,
        row.deployType = "local" → row.nodeId = some request.nodeId → held row.id →
        match lastReport request.managedInstances row.id with
        | some report => report.status = "running"
        | none => expectsReport db request.nodeId row = false) := by
  constructor
  · intro hafter hnode row hmem hlocal hself hheld
    have hbusy := hafter row.id _ hheld
      (status_after_heartbeat request (Table.find?_of_mem hmem) hlocal)
    rw [Db.statusAfterHeartbeat, if_pos ⟨hnode, hself⟩] at hbusy
    cases hreport : lastReport request.managedInstances row.id with
    | some report =>
        rw [hreport] at hbusy
        exact busyStatus_reportStatus.mp hbusy
    | none =>
        rw [hreport] at hbusy
        by_contra hexpects
        have hexpects : expectsReport db request.nodeId row = true := by simpa using hexpects
        simp [hexpects, busyStatus] at hbusy
  · intro hok instanceId status hheld hstatus
    have hisSome : (db.board.status instanceId).isSome = true := by
      rw [← isSome_status_after_heartbeat db request, hstatus]
      rfl
    obtain ⟨before, hbefore⟩ := Option.isSome_iff_exists.mp hisSome
    have hbusy : busyStatus before = true := hdb instanceId before hheld hbefore
    obtain ⟨row, hrow, hlocal, rfl⟩ := board_status_eq_some.mp hbefore
    obtain rfl : row.id = instanceId := Table.find?_key hrow
    rw [status_after_heartbeat request hrow hlocal] at hstatus
    obtain rfl := Option.some.inj hstatus
    unfold Db.statusAfterHeartbeat
    by_cases hboth : (db.nodes.find? request.nodeId).isSome = true ∧ row.nodeId = some request.nodeId
    · have hreport := hok hboth.1 row (Table.find?_mem hrow) hlocal hboth.2 hheld
      rw [if_pos hboth]
      cases hlast : lastReport request.managedInstances row.id with
      | some report =>
          rw [hlast] at hreport
          exact busyStatus_reportStatus.mpr hreport
      | none =>
          rw [hlast] at hreport
          dsimp only at hreport ⊢
          rw [hreport]
          exact hbusy
    · rw [if_neg hboth]
      exact hbusy

end Boards

/-! ### When an operation keeps them busy -/

/-- An operation that writes another status than `running`, `starting` or `stopping` writes it only to
instances of which nothing is held. -/
def KeepsBusy (held : String → Prop) (s : ServerState) : ServerOperation → Prop
  | .task (.pollAgentTask ..) | .task .markTimedOutTasks =>
      ∀ task ∈ s.db.swept, ∀ instanceId, task.entity = some (.instance instanceId) →
        (s.db.board.status instanceId).isSome → ¬ held instanceId
  | .task (.recordAgentTaskResult taskId request) =>
      ∀ task status, recordedResult s.db taskId request = some (task, status) →
        busyStatus (nextStatus task.kind status request.result) = true ∨
          ∀ instanceId, task.entity = some (.instance instanceId) →
            (s.db.board.status instanceId).isSome → ¬ held instanceId
  | .task (.waitDeadline id taskId) =>
      (id, taskId) ∈ s.waiting → s.db.liveTask taskId = true → (s.db.board.status id).isSome → ¬ held id
  | .recordHeartbeat request =>
      (s.db.nodes.find? request.nodeId).isSome → ∀ row ∈ s.db.modelInstances.rows,
        row.deployType = "local" → row.nodeId = some request.nodeId → held row.id →
        match lastReport request.managedInstances row.id with
        | some report => report.status = "running"
        | none => expectsReport s.db request.nodeId row = false
  | _ => True

theorem busy_perform_iff {held : String → Prop} (deps : External) (s : ServerState) (op : ServerOperation)
    (hs : s.db.board.Busy held) : (op.perform deps s).db.board.Busy held ↔ KeepsBusy held s op := by
  rw [ServerOperation.board_perform]
  cases op with
  | task op =>
      cases op with
      | startModelInstance id taskId =>
          exact iff_of_true (busy_after_enqueue hs (by decide) _ _ _) trivial
      | stopModelInstance id taskId =>
          exact iff_of_true (busy_after_enqueue hs (by decide) _ _ _) trivial
      | checkModelInstance id taskId http =>
          exact iff_of_true (busy_after_enqueue hs (by decide) _ _ _) trivial
      | testModelInstance id taskId http =>
          exact iff_of_true (busy_after_enqueue hs (by decide) _ _ _) trivial
      | pollAgentTask nodeId currentConfigVersion => exact busy_after_sweep hs
      | markTimedOutTasks => exact busy_after_sweep hs
      | recordAgentTaskResult taskId request => exact busy_after_record hs taskId request
      | waitDeadline id taskId => exact busy_after_wait hs s.waiting id taskId
      | act action => exact iff_of_true hs trivial
  | updateModelInstance id request => exact iff_of_true hs trivial
  | deleteModelInstance id => exact iff_of_true (busy_after_delete hs id) trivial
  | updateRuntimeEnvironment id request => exact iff_of_true hs trivial
  | recordHeartbeat request => exact busy_after_heartbeat hs request

end LightAI.Server
