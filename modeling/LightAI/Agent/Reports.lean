import LightAI.Agent.Process
import LightAI.Server.Reconcile

/-!
# What the reports of a heartbeat make of a running process

A record whose check does not find it running leaves the store, and the server is told that its instance
has failed. So everything that keeps a check from finding a running process loses it.
-/

namespace LightAI.Agent

open Server (Db HeartbeatRequest ManagedInstanceReport ModelInstance heartbeatChanges)

/-! ### Checks -/

namespace Moment

variable (m : Moment)

/-- Whether the process or the container of a record runs. -/
def runs (record : ManagedProcessRecord) : Bool :=
  if record.isDocker then record.containerRef.any m.containers
  else (m.processes record.processId).any fun startTime =>
    record.processStartTime.all (· = startTime)

/-- The answer of a check at this moment. -/
def check (deps : External) (record : ManagedProcessRecord) : ProcessCheck :=
  if record.isDocker then
    match record.containerRef with
    | none => { isRunning := false, message := "missing container ID or name" }
    | some containerRef =>
        dockerCheck (inspectedStatus deps (m.answer (.dockerInspect containerRef)))
  else processCheck record (Option.bind (m.answer (.readStat record.processId)) parseLinuxStatStartTime)

/-- `docker inspect` succeeds and its output says that the container runs; the `stat` of the process
can be read, and it has the start time of the record, if the record has one. -/
def shows (deps : External) (record : ManagedProcessRecord) : Prop :=
  if record.isDocker then
    ∃ containerRef status stdout stderr container rest, record.containerRef = some containerRef ∧
      m.answer (.dockerInspect containerRef) = CommandOutcome.exited true status stdout stderr ∧
      deps.jsonArrayFromStr stdout = .ok (container :: rest) ∧
      (dockerStateField container "Running").bind Json.asBool = some true
  else
    ∃ stat startTime, m.answer (.readStat record.processId) = some stat ∧
      parseLinuxStatStartTime stat = some startTime ∧
      ∀ expected, record.processStartTime = some expected → startTime = expected

end Moment

theorem dockerCheck_isRunning_iff (deps : External) (outcome : CommandOutcome) :
    (dockerCheck (inspectedStatus deps outcome)).isRunning = true ↔
      ∃ status stdout stderr container rest, outcome = .exited true status stdout stderr ∧
        deps.jsonArrayFromStr stdout = .ok (container :: rest) ∧
        (dockerStateField container "Running").bind Json.asBool = some true := by
  constructor
  · intro hrunning
    cases outcome with
    | timedOut => exact absurd hrunning Bool.false_ne_true
    | spawnFailed error => exact absurd hrunning Bool.false_ne_true
    | exited success status stdout stderr =>
        cases success with
        | false =>
            simp only [inspectedStatus] at hrunning
            split at hrunning <;> exact absurd hrunning Bool.false_ne_true
        | true =>
            simp only [inspectedStatus] at hrunning
            cases hparsed : deps.jsonArrayFromStr stdout with
            | error error =>
                rw [hparsed] at hrunning
                exact absurd hrunning Bool.false_ne_true
            | ok containers =>
                rw [hparsed] at hrunning
                cases containers with
                | nil => exact absurd hrunning Bool.false_ne_true
                | cons container rest =>
                    refine ⟨status, stdout, stderr, container, rest, rfl, hparsed, ?_⟩
                    have hflag : ((dockerStateField container "Running").bind Json.asBool).getD false
                        = true := hrunning
                    cases hfield : (dockerStateField container "Running").bind Json.asBool with
                    | none => simp [hfield] at hflag
                    | some flag => simpa [hfield] using hflag
  · rintro ⟨status, stdout, stderr, container, rest, rfl, hparsed, hflag⟩
    simp only [inspectedStatus, hparsed]
    change ((dockerStateField container "Running").bind Json.asBool).getD false = true
    rw [hflag]
    rfl

theorem processCheck_isRunning_iff (record : ManagedProcessRecord) (current : Option Nat) :
    (processCheck record current).isRunning = true ↔
      ∃ startTime, current = some startTime ∧
        ∀ expected, record.processStartTime = some expected → startTime = expected := by
  cases current with
  | none => simp [processCheck]
  | some startTime =>
      unfold processCheck
      cases record.processStartTime with
      | none => simp
      | some expected =>
          by_cases heq : startTime = expected
          · simp [heq]
          · simp [heq]

/-- A check finds a record running exactly when what it asks shows it running. -/
theorem check_isRunning_iff (deps : External) (m : Moment) (record : ManagedProcessRecord) :
    (m.check deps record).isRunning = true ↔ m.shows deps record := by
  unfold Moment.check Moment.shows
  by_cases hdocker : record.isDocker = true
  · rw [if_pos hdocker, if_pos hdocker]
    cases href : record.containerRef with
    | none => simp
    | some containerRef =>
        refine (dockerCheck_isRunning_iff deps (m.answer (.dockerInspect containerRef))).trans ?_
        constructor
        · rintro ⟨status, stdout, stderr, container, rest, houtcome, hparsed, hflag⟩
          exact ⟨containerRef, status, stdout, stderr, container, rest, rfl, houtcome, hparsed, hflag⟩
        · rintro ⟨_, status, stdout, stderr, container, rest, hsame, houtcome, hparsed, hflag⟩
          obtain rfl := Option.some.inj hsame
          exact ⟨status, stdout, stderr, container, rest, houtcome, hparsed, hflag⟩
  · rw [if_neg hdocker, if_neg hdocker, processCheck_isRunning_iff]
    constructor
    · rintro ⟨startTime, hcurrent, hexpected⟩
      obtain ⟨stat, hstat, hparsed⟩ := Option.bind_eq_some_iff.mp hcurrent
      exact ⟨stat, startTime, hstat, hparsed, hexpected⟩
    · rintro ⟨stat, startTime, hstat, hparsed, hexpected⟩
      exact ⟨startTime, Option.bind_eq_some_iff.mpr ⟨stat, hstat, hparsed⟩, hexpected⟩

/-- How many moments a check takes: a docker record without id and name is not asked for. -/
def checkTicks (record : ManagedProcessRecord) : Nat :=
  if record.isDocker && record.containerRef.isNone then 0 else 1

/-- The moments at which a list of records is checked, from `now` on. -/
def checkedAt (now : Nat) : List ManagedProcessRecord → List (ManagedProcessRecord × Nat)
  | [] => []
  | record :: records => (record, now) :: checkedAt (now + checkTicks record) records

section Run

variable (deps : External) (env : Nat → Moment)

theorem run_checkRecord (record : ManagedProcessRecord) (w : World) :
    run env (checkRecord deps record) w
      = ((env w.now).check deps record, { w with now := w.now + checkTicks record }) := by
  unfold checkRecord Moment.check checkTicks
  by_cases hdocker : record.isDocker = true
  · rw [if_pos hdocker, if_pos hdocker, hdocker]
    unfold checkDockerRecord
    cases record.containerRef with
    | none => rfl
    | some containerRef => rfl
  · rw [if_neg hdocker, if_neg hdocker, eq_false_of_ne_true hdocker]
    rfl

/-- The checks one by one. -/
theorem run_checkRecords (records : List ManagedProcessRecord) (w : World) :
    ∃ now, run env (checkRecords deps records) w
      = ((checkedAt w.now records).map fun entry => (entry.1, (env entry.2).check deps entry.1),
        { w with now }) := by
  induction records generalizing w with
  | nil => exact ⟨w.now, rfl⟩
  | cons record records ih =>
      obtain ⟨now, hrest⟩ := ih { w with now := w.now + checkTicks record }
      refine ⟨now, ?_⟩
      rw [checkRecords, run_bind, run_checkRecord, run_bind, hrest]
      rfl

/-- What a heartbeat reports, and what it leaves in the store. -/
theorem run_reports (w : World) :
    (∃ error, (env w.now).fileError .readStore = some error ∧
        run env (reports deps) w = ([], w.tick)) ∨
      (∃ error, w.store = .unparsable error ∧ run env (reports deps) w = ([], w.tick)) ∨
      ((env w.now).fileError .readStore = none ∧
        (run env (reports deps) w).1 = (checkedAt (w.now + 1) w.store.held).map
          (fun entry => report entry.1 ((env entry.2).check deps entry.1)) ∧
        ((run env (reports deps) w).2.store = w.store ∨
          (run env (reports deps) w).2.store = .records
            (((checkedAt (w.now + 1) w.store.held).filter fun entry =>
              ((env entry.2).check deps entry.1).isRunning).map Prod.fst))) := by
  cases hread : (env w.now).fileError .readStore with
  | some error =>
      left
      refine ⟨error, rfl, ?_⟩
      rw [reports, run_bind, run_load_of_error hread]
      rfl
  | none =>
      right
      have hload := run_load_of_readable (w := w) hread
      cases hloaded : w.store.loaded with
      | error error =>
          left
          refine ⟨error, ?_, ?_⟩
          · cases hstore : w.store with
            | missing => rw [hstore] at hloaded; exact nomatch hloaded
            | unparsable error' => rw [hstore] at hloaded; rw [Except.error.inj hloaded]
            | records held => rw [hstore] at hloaded; exact nomatch hloaded
          · rw [reports, run_bind, hload, hloaded]
            rfl
      | ok records =>
          right
          rw [StoreFile.held_of_loaded hloaded]
          obtain ⟨now, hchecks⟩ := run_checkRecords deps env records w.tick
          have hrun : run env (reports deps) w
              = ((checkedAt (w.now + 1) records).map
                  (fun entry => report entry.1 ((env entry.2).check deps entry.1)),
                (run env (save ((((checkedAt (w.now + 1) records).map fun entry =>
                  (entry.1, (env entry.2).check deps entry.1)).filter (·.2.isRunning)).map Prod.fst))
                  { w.tick with now }).2) := by
            rw [reports, run_bind, hload, hloaded]
            dsimp only
            rw [run_bind, hchecks, run_bind, run_pure, List.map_map]
            rfl
          rw [hrun]
          refine ⟨rfl, rfl, ?_⟩
          have hactive : (((checkedAt (w.now + 1) records).map fun entry =>
              (entry.1, (env entry.2).check deps entry.1)).filter (·.2.isRunning)).map Prod.fst
              = ((checkedAt (w.now + 1) records).filter fun entry =>
                ((env entry.2).check deps entry.1).isRunning).map Prod.fst := by
            rw [List.filter_map, List.map_map]
            rfl
          rw [hactive]
          cases hwrite : (env now).fileError .writeStore with
          | some error =>
              left
              rw [run_save_of_error hwrite]
              rfl
          | none =>
              right
              rw [run_save_of_writable hwrite]

end Run

/-! ### Running processes -/

/-- Every record whose process or container runs when the record is checked is in the store after the
reports, and the heartbeat that is built from them fails its instance on no server. -/
def NothingLost (deps : External) (env : Nat → Moment) (w : World) : Prop :=
  ∀ entry ∈ checkedAt (w.now + 1) w.store.held, (env entry.2).runs entry.1 = true →
    entry.1 ∈ (run env (reports deps) w).2.store.held ∧
    ∀ (db : Db) (request : HeartbeatRequest),
      request.managedInstances = (run env (reports deps) w).1 →
      .setStatus entry.1.instanceId "failed" ∉ heartbeatChanges db request

/-- Where a record runs, the store can be read, and each record of the same instance is shown to
run when it is checked. -/
def ChecksSeeRunning (deps : External) (env : Nat → Moment) (w : World) : Prop :=
  ∀ entry ∈ checkedAt (w.now + 1) w.store.held, (env entry.2).runs entry.1 = true →
    (env w.now).fileError .readStore = none ∧
    ∀ other ∈ checkedAt (w.now + 1) w.store.held, other.1.instanceId = entry.1.instanceId →
      (env other.2).shows deps other.1

theorem fst_mem_of_mem_checkedAt {now : Nat} {records : List ManagedProcessRecord}
    {entry : ManagedProcessRecord × Nat} (h : entry ∈ checkedAt now records) : entry.1 ∈ records := by
  induction records generalizing now with
  | nil => exact nomatch h
  | cons record records ih =>
      rcases List.mem_cons.mp h with rfl | hrest
      · exact List.mem_cons_self
      · exact List.mem_cons_of_mem record (ih hrest)

/-- A server on which an instance of a node runs. -/
def runningDb (nodeId instanceId : String) : Db :=
  { clock := 0
    nodes := ⟨[{ id := nodeId, name := "node", lastHeartbeatAt := none }], List.nodup_singleton _⟩
    modelInstances :=
      ⟨[{ id := instanceId, nodeId := some nodeId, runtimeEnvironmentId := none, name := "instance"
          backend := "vllm", deployType := "local", status := "running", createdAt := 0
          updatedAt := 0 }], List.nodup_singleton _⟩ }

theorem runningDb_takesReport (nodeId instanceId : String) :
    (runningDb nodeId instanceId).takesReport nodeId instanceId = true := by
  simp [Db.takesReport, runningDb, Table.find?]

theorem runningDb_missing (nodeId instanceId : String) :
    instanceId ∈ Server.missingIds (runningDb nodeId instanceId) nodeId []
      (runningDb nodeId instanceId).modelInstances.rows := by
  simp [Server.missingIds, runningDb, Server.expectsReport, Server.busyStatus]

/-- An instance that runs on the server fails when it is not reported, or when a report says so. -/
theorem runningDb_fails {request : HeartbeatRequest} {instanceId : String}
    (h : request.managedInstances = [] ∨ ∃ report ∈ request.managedInstances,
      report.instanceId = instanceId ∧ report.status = "failed") :
    .setStatus instanceId "failed" ∈ heartbeatChanges (runningDb request.nodeId instanceId) request := by
  have hnode : ((runningDb request.nodeId instanceId).nodes.find? request.nodeId).isSome = true := by
    simp [runningDb, Table.find?]
  unfold heartbeatChanges
  rw [if_pos hnode, List.mem_append]
  rcases h with hnone | ⟨report, hmem, hid, hfailed⟩
  · right
    rw [hnone]
    exact List.mem_map_of_mem (runningDb_missing request.nodeId instanceId)
  · left
    have hchange : Server.reportChange report = .setStatus instanceId "failed" := by
      rw [Server.reportChange, hid, hfailed]
      rfl
    rw [← hchange]
    apply List.mem_map_of_mem
    rw [List.mem_filter, hid]
    exact ⟨hmem, runningDb_takesReport request.nodeId instanceId⟩

theorem failed_not_mem_heartbeatChanges {db : Db} {request : HeartbeatRequest} {instanceId : String}
    (hsome : ∃ report ∈ request.managedInstances, report.instanceId = instanceId)
    (hrunning : ∀ report ∈ request.managedInstances, report.instanceId = instanceId →
      report.status = "running") :
    .setStatus instanceId "failed" ∉ heartbeatChanges db request := by
  intro hmem
  unfold heartbeatChanges at hmem
  split at hmem
  · rcases List.mem_append.mp hmem with hreported | hmissing
    · obtain ⟨report, hreport, hchange⟩ := List.mem_map.mp hreported
      injection hchange with hid hstatus
      have hrunning := hrunning report (List.mem_filter.mp hreport).1 hid
      rw [hrunning] at hstatus
      exact absurd hstatus (by decide)
    · obtain ⟨id, hid, hchange⟩ := List.mem_map.mp hmissing
      injection hchange with heq
      obtain ⟨report, hreport, hreportId⟩ := hsome
      have hunreported := (List.mem_filter.mp hid).2
      rw [heq, ← hreportId] at hunreported
      exact absurd (List.mem_map_of_mem hreport) (by simpa using hunreported)
  · cases hmem

/-- A container that runs. -/
def containerRecord (instanceId containerId : String) : ManagedProcessRecord :=
  createDockerManagedRecord instanceId containerId "" "" "" 0

/-- The container runs, and docker does not answer in time. -/
def slowDocker : Moment := { Moment.idle with containers := fun _ => true }

end LightAI.Agent
