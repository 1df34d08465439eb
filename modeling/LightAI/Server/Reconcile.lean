import Mathlib
import LightAI.Server.Board

/-!
# What a heartbeat does to the status of the instances

`reconcile_managed_instances` first applies each report of the heartbeat and then looks for the local
instances of the node that should have been reported and are not.
-/

namespace LightAI.Server

/-- Whether a report of a node is applied to an instance. -/
def Db.takesReport (db : Db) (nodeId instanceId : String) : Bool :=
  (db.modelInstances.find? instanceId).any fun row =>
    row.nodeId = some nodeId && row.deployType = "local"

def reportChange (report : ManagedInstanceReport) : Change :=
  .setStatus report.instanceId (reportStatus report.status)

abbrev takesReportRow (nodeId : String) (report : ManagedInstanceReport) (row : ModelInstance) :
    Bool :=
  row.id = report.instanceId && row.nodeId = some nodeId && row.deployType = "local"

theorem applyReport_id (report : ManagedInstanceReport) (now : Int) (row : ModelInstance) :
    (row.applyReport report now).id = row.id := rfl

/-- The `UPDATE` of one report. -/
def applyReport (nodeId : String) (now : Int) (report : ManagedInstanceReport) (db : Db) : Db :=
  { db with
    modelInstances := db.modelInstances.updateWhere (takesReportRow nodeId report)
      (·.applyReport report now) (applyReport_id report now) }

theorem find?_applyReport (nodeId : String) (now : Int) (report : ManagedInstanceReport) (db : Db)
    (id : String) :
    (applyReport nodeId now report db).modelInstances.find? id
      = (db.modelInstances.find? id).map fun row =>
        if takesReportRow nodeId report row then row.applyReport report now else row :=
  Table.find?_updateWhere db.modelInstances (takesReportRow nodeId report) (·.applyReport report now)
    (applyReport_id report now) id

theorem board_applyReport (nodeId : String) (now : Int) (report : ManagedInstanceReport) (db : Db) :
    (applyReport nodeId now report db).board
      = if db.takesReport nodeId report.instanceId then db.board.after (reportChange report)
        else db.board := by
  have hstatus : ∀ id, ((applyReport nodeId now report db).modelInstances.find? id).bind
      ModelInstance.localStatus
        = if id = report.instanceId ∧ db.takesReport nodeId report.instanceId = true then
            some (reportStatus report.status)
          else (db.modelInstances.find? id).bind ModelInstance.localStatus := by
    intro id
    rw [find?_applyReport]
    cases hrow : db.modelInstances.find? id with
    | none =>
        have hnot : ¬ (id = report.instanceId ∧ db.takesReport nodeId report.instanceId = true) := by
          rintro ⟨rfl, htakes⟩
          simp [Db.takesReport, hrow] at htakes
        rw [if_neg hnot]
        rfl
    | some row =>
        have hkey : row.id = id := Table.find?_key hrow
        by_cases htakes : id = report.instanceId ∧ db.takesReport nodeId report.instanceId = true
        · have hboth : row.nodeId = some nodeId ∧ row.deployType = "local" := by
            simpa [Db.takesReport, ← htakes.1, hrow] using htakes.2
          rw [if_pos htakes]
          simp [takesReportRow, hkey, htakes.1, hboth, ModelInstance.localStatus,
            ModelInstance.applyReport]
        · have hskip : takesReportRow nodeId report row = false := by
            by_contra htake
            apply htakes
            have htake : row.id = report.instanceId ∧ row.nodeId = some nodeId ∧
                row.deployType = "local" := by simpa using htake
            have hid : id = report.instanceId := by rw [← hkey, htake.1]
            refine ⟨hid, ?_⟩
            simp [Db.takesReport, ← hid, hrow, htake.2.1, htake.2.2]
          rw [if_neg htakes, Option.map_some, hskip]
          rfl
  by_cases htakes : db.takesReport nodeId report.instanceId = true
  · rw [if_pos htakes]
    simp only [Db.board, Board.after, reportChange, Board.setStatus, Board.mk.injEq]
    refine ⟨rfl, ?_⟩
    funext id
    rw [hstatus]
    by_cases hid : id = report.instanceId
    · subst hid
      rw [if_pos ⟨rfl, htakes⟩, Function.update_self]
      unfold Db.takesReport at htakes
      obtain ⟨row, hrow, hboth⟩ := (Option.any_eq_true _ _).mp htakes
      have hlocal : row.deployType = "local" := by
        rw [Bool.and_eq_true] at hboth
        simpa using hboth.2
      simp [hrow, ModelInstance.localStatus, hlocal]
    · rw [if_neg fun h => hid h.1, Function.update_of_ne hid]
  · rw [if_neg htakes]
    simp only [Db.board, Board.mk.injEq]
    refine ⟨rfl, ?_⟩
    funext id
    rw [hstatus, if_neg fun h => htakes h.2]

theorem takesReport_applyReport (nodeId : String) (now : Int) (report : ManagedInstanceReport)
    (db : Db) (instanceId : String) :
    (applyReport nodeId now report db).takesReport nodeId instanceId
      = db.takesReport nodeId instanceId := by
  unfold Db.takesReport
  rw [find?_applyReport]
  cases db.modelInstances.find? instanceId with
  | none => rfl
  | some row =>
      rw [Option.map_some]
      split <;> rfl

theorem board_applyReports (nodeId : String) (now : Int) (reports : List ManagedInstanceReport)
    (db : Db) :
    ({ db with modelInstances := applyReports nodeId now reports db.modelInstances } : Db).board
      = db.board.afterAll
        ((reports.filter (db.takesReport nodeId ·.instanceId)).map reportChange) := by
  induction reports generalizing db with
  | nil => rfl
  | cons report reports ih =>
      have hrest := ih (applyReport nodeId now report db)
      simp only [takesReport_applyReport, board_applyReport] at hrest
      refine hrest.trans ?_
      by_cases htakes : db.takesReport nodeId report.instanceId = true
      · rw [if_pos htakes, List.filter_cons, if_pos htakes]
        rfl
      · rw [if_neg htakes, List.filter_cons, if_neg htakes]

/-- The rows that a heartbeat should report and does not. -/
def missingIds (db : Db) (nodeId : String) (reportedIds : List String) (rows : List ModelInstance) :
    List String :=
  ((rows.filter (expectsReport db nodeId)).map (·.id)).filter (· ∉ reportedIds)

/-- What a heartbeat changes: the status of each reported instance, and that of each instance which
should have been reported. -/
def heartbeatChanges (db : Db) (request : HeartbeatRequest) : List Change :=
  let reports := request.managedInstances
  if (db.nodes.find? request.nodeId).isSome then
    (reports.filter (db.takesReport request.nodeId ·.instanceId)).map reportChange
      ++ (missingIds db request.nodeId (reports.map (·.instanceId)) db.modelInstances.rows).map
        (.setStatus · "failed")
  else []

theorem board_failUnreported (reportedIds : List String) (now : Int) (ids : List String) (db : Db) :
    ({ db with modelInstances := failUnreported reportedIds now ids db.modelInstances } : Db).board
      = db.board.afterAll ((ids.filter (· ∉ reportedIds)).map (.setStatus · "failed")) := by
  induction ids generalizing db with
  | nil => rfl
  | cons id ids ih =>
      by_cases hreported : id ∈ reportedIds
      · have hstep : failUnreported reportedIds now (id :: ids) db.modelInstances
            = failUnreported reportedIds now ids db.modelInstances := by
          simp [failUnreported, hreported]
        rw [hstep, ih, List.filter_cons_of_neg (by simpa using hreported)]
      · have hstep : failUnreported reportedIds now (id :: ids) db.modelInstances
            = failUnreported reportedIds now ids
              (db.modelInstances.update id (·.unreported now) fun _ => rfl) := by
          simp [failUnreported, hreported]
        have hwrite : ({ db with
            modelInstances := db.modelInstances.update id (·.unreported now) fun _ => rfl } : Db).board
            = db.board.setStatus id "failed" :=
          board_update_instance db id "failed" (fun _ => rfl) fun _ => rfl
        have hrest := ih { db with
          modelInstances := db.modelInstances.update id (·.unreported now) fun _ => rfl }
        rw [hwrite] at hrest
        rw [List.filter_cons_of_pos (by simpa using hreported), hstep]
        exact hrest

theorem missingIds_cons_of_mem {db : Db} {nodeId : String} {reportedIds : List String}
    {row : ModelInstance} (hmem : row.id ∈ reportedIds) (rows : List ModelInstance) :
    missingIds db nodeId reportedIds (row :: rows) = missingIds db nodeId reportedIds rows := by
  unfold missingIds
  rw [List.filter_cons]
  by_cases hexpects : expectsReport db nodeId row = true
  · rw [if_pos hexpects, List.map_cons, List.filter_cons_of_neg (by simpa using hmem)]
  · rw [if_neg hexpects]

theorem missingIds_cons (db : Db) (nodeId : String) (reportedIds : List String)
    (row : ModelInstance) (rows : List ModelInstance) :
    missingIds db nodeId reportedIds (row :: rows)
      = missingIds db nodeId reportedIds [row] ++ missingIds db nodeId reportedIds rows := by
  unfold missingIds
  rw [← List.filter_append, ← List.map_append, ← List.filter_append, List.singleton_append]

/-- Rewriting reported rows only does not change which rows are missing. -/
theorem missingIds_map {db : Db} {nodeId : String} {reportedIds : List String}
    {p : ModelInstance → Bool} (f : ModelInstance → ModelInstance)
    (hid : ∀ row, (f row).id = row.id) (hp : ∀ row, p row = true → row.id ∈ reportedIds)
    (rows : List ModelInstance) :
    missingIds db nodeId reportedIds (rows.map fun row => if p row then f row else row)
      = missingIds db nodeId reportedIds rows := by
  induction rows with
  | nil => rfl
  | cons row rows ih =>
      rw [List.map_cons]
      by_cases hrow : p row = true
      · have hmem : row.id ∈ reportedIds := hp row hrow
        have hmem' : (f row).id ∈ reportedIds := by rwa [hid]
        rw [if_pos hrow, missingIds_cons_of_mem hmem', missingIds_cons_of_mem hmem, ih]
      · rw [if_neg hrow, missingIds_cons, ih, ← missingIds_cons]

theorem missingIds_applyReports (db : Db) (nodeId : String) (now : Int) (reportedIds : List String)
    (reports : List ManagedInstanceReport) (hsub : ∀ report ∈ reports, report.instanceId ∈ reportedIds)
    (instances : Instances) :
    missingIds db nodeId reportedIds (applyReports nodeId now reports instances).rows
      = missingIds db nodeId reportedIds instances.rows := by
  induction reports generalizing instances with
  | nil => rfl
  | cons report reports ih =>
      have htaken : ∀ row, takesReportRow nodeId report row = true → row.id ∈ reportedIds := by
        intro row htakes
        have hid : row.id = report.instanceId := by
          simp only [takesReportRow, Bool.and_eq_true, decide_eq_true_eq] at htakes
          exact htakes.1.1
        rw [hid]
        exact hsub report List.mem_cons_self
      refine (ih (fun r hr => hsub r (List.mem_cons_of_mem report hr)) _).trans ?_
      exact missingIds_map (·.applyReport report now) (fun _ => rfl) htaken instances.rows

theorem board_reconcile (db : Db) (nodeId : String) (reports : List ManagedInstanceReport)
    (now : Int) :
    (reconcileManagedInstances db nodeId reports now).board
      = (db.board.afterAll
          ((reports.filter (db.takesReport nodeId ·.instanceId)).map reportChange)).afterAll
        ((missingIds db nodeId (reports.map (·.instanceId)) db.modelInstances.rows).map
          (.setStatus · "failed")) := by
  have hreported : ∀ report ∈ reports, report.instanceId ∈ reports.map (·.instanceId) :=
    fun report hmem => List.mem_map_of_mem hmem
  have hmissing := missingIds_applyReports db nodeId now (reports.map (·.instanceId)) reports
    hreported db.modelInstances
  rw [← board_applyReports nodeId now reports db, ← hmissing]
  exact board_failUnreported (reports.map (·.instanceId)) now _
    { db with modelInstances := applyReports nodeId now reports db.modelInstances }

theorem board_recordHeartbeat (request : HeartbeatRequest) (now : Int) (db : Db) :
    ((Stmt.recordHeartbeat request now).exec db).2.board
      = db.board.afterAll (heartbeatChanges db request) := by
  unfold heartbeatChanges
  simp only [Stmt.exec]
  cases hnode : db.nodes.find? request.nodeId with
  | none => rfl
  | some node =>
      rw [Option.isSome_some, if_pos rfl, Board.afterAll_append]
      exact board_reconcile
        { db with
          nodes := db.nodes.update request.nodeId
            (fun node => { node with lastHeartbeatAt := some request.sampledAt }) fun _ => rfl }
        request.nodeId request.managedInstances now

/-! ### The status that a heartbeat leaves -/

/-- The report of an instance that is applied last. -/
def lastReport (reports : List ManagedInstanceReport) (instanceId : String) :
    Option ManagedInstanceReport :=
  reports.reverse.find? (·.instanceId = instanceId)

/-- The status of a local instance after a heartbeat. -/
def Db.statusAfterHeartbeat (db : Db) (request : HeartbeatRequest) (row : ModelInstance) : String :=
  if (db.nodes.find? request.nodeId).isSome ∧ row.nodeId = some request.nodeId then
    match lastReport request.managedInstances row.id with
    | some report => reportStatus report.status
    | none => if expectsReport db request.nodeId row then "failed" else row.status
  else row.status

theorem lastReport_concat (reports : List ManagedInstanceReport) (report : ManagedInstanceReport)
    (instanceId : String) :
    lastReport (reports ++ [report]) instanceId
      = if report.instanceId = instanceId then some report else lastReport reports instanceId := by
  unfold lastReport
  rw [List.reverse_append, List.reverse_singleton, List.singleton_append, List.find?_cons]
  by_cases hid : report.instanceId = instanceId
  · rw [if_pos hid, decide_eq_true hid]
  · rw [if_neg hid, decide_eq_false hid]

theorem lastReport_eq_none_iff {reports : List ManagedInstanceReport} {instanceId : String} :
    lastReport reports instanceId = none ↔ instanceId ∉ reports.map (·.instanceId) := by
  simp [lastReport]

theorem lastReport_filter (db : Db) (nodeId instanceId : String)
    (reports : List ManagedInstanceReport) :
    lastReport (reports.filter (db.takesReport nodeId ·.instanceId)) instanceId
      = if db.takesReport nodeId instanceId then lastReport reports instanceId else none := by
  unfold lastReport
  rw [← List.filter_reverse, List.find?_filter]
  by_cases htakes : db.takesReport nodeId instanceId = true
  · rw [if_pos htakes]
    congr 1
    funext report
    by_cases hid : report.instanceId = instanceId
    · simp [hid, htakes]
    · simp [hid]
  · rw [if_neg htakes, List.find?_eq_none]
    intro report _
    by_cases hid : report.instanceId = instanceId
    · simp [hid, htakes]
    · simp [hid]

theorem status_after_reports (b : Board) (reports : List ManagedInstanceReport)
    (instanceId : String) :
    (b.afterAll (reports.map reportChange)).status instanceId
      = match lastReport reports instanceId with
        | some report => (b.status instanceId).map fun _ => reportStatus report.status
        | none => b.status instanceId := by
  induction reports using List.reverseRecOn with
  | nil => rfl
  | append_singleton reports report ih =>
      rw [List.map_append, Board.afterAll_append, lastReport_concat, List.map_singleton,
        Board.afterAll_cons, Board.afterAll_nil]
      change Function.update _ report.instanceId _ instanceId = _
      by_cases hid : report.instanceId = instanceId
      · rw [if_pos hid, hid, Function.update_self, ih]
        cases lastReport reports instanceId with
        | none => rfl
        | some earlier => rw [Option.map_map]; rfl
      · rw [if_neg hid, Function.update_of_ne (Ne.symm hid), ih]

theorem status_after_failed (b : Board) (ids : List String) (instanceId : String) :
    (b.afterAll (ids.map (.setStatus · "failed"))).status instanceId
      = if instanceId ∈ ids then (b.status instanceId).map fun _ => "failed"
        else b.status instanceId := by
  induction ids generalizing b with
  | nil => rfl
  | cons id ids ih =>
      have hwrite : (b.after (.setStatus id "failed")).status instanceId
          = if instanceId = id then (b.status instanceId).map fun _ => "failed"
            else b.status instanceId := by
        change Function.update _ id _ instanceId = _
        by_cases hid : instanceId = id
        · rw [if_pos hid, hid, Function.update_self]
        · rw [if_neg hid, Function.update_of_ne hid]
      rw [List.map_cons, Board.afterAll_cons, ih, hwrite]
      by_cases hid : instanceId = id
      · rw [if_pos hid, hid, if_pos List.mem_cons_self, Option.map_map]
        split <;> rfl
      · rw [if_neg hid]
        simp only [List.mem_cons, hid, false_or]

theorem mem_missingIds {db : Db} {nodeId : String} {reportedIds : List String} {row : ModelInstance}
    (hrow : db.modelInstances.find? row.id = some row) :
    row.id ∈ missingIds db nodeId reportedIds db.modelInstances.rows
      ↔ expectsReport db nodeId row = true ∧ row.id ∉ reportedIds := by
  unfold missingIds
  simp only [List.mem_filter, List.mem_map, decide_eq_true_eq]
  constructor
  · rintro ⟨⟨row', ⟨hmem, hexpects⟩, hid⟩, hreported⟩
    have hfind := Table.find?_of_mem hmem
    rw [hid, hrow] at hfind
    obtain rfl := Option.some.inj hfind
    exact ⟨hexpects, hreported⟩
  · rintro ⟨hexpects, hreported⟩
    exact ⟨⟨row, ⟨Table.find?_mem hrow, hexpects⟩, rfl⟩, hreported⟩

theorem status_after_heartbeat {db : Db} (request : HeartbeatRequest) {row : ModelInstance}
    (hrow : db.modelInstances.find? row.id = some row) (hlocal : row.deployType = "local") :
    (db.board.afterAll (heartbeatChanges db request)).status row.id
      = some (db.statusAfterHeartbeat request row) := by
  have hstatus : db.board.status row.id = some row.status := by
    rw [board_status_eq_some]
    exact ⟨row, hrow, hlocal, rfl⟩
  have htakes : db.takesReport request.nodeId row.id = decide (row.nodeId = some request.nodeId) := by
    simp [Db.takesReport, hrow, hlocal]
  unfold heartbeatChanges Db.statusAfterHeartbeat
  by_cases hnode : (db.nodes.find? request.nodeId).isSome = true
  · rw [if_pos hnode, Board.afterAll_append, status_after_failed, status_after_reports, hstatus,
      lastReport_filter, htakes]
    simp only [mem_missingIds hrow, ← lastReport_eq_none_iff]
    by_cases hself : row.nodeId = some request.nodeId
    · have hboth : (db.nodes.find? request.nodeId).isSome = true ∧ row.nodeId = some request.nodeId :=
        ⟨hnode, hself⟩
      simp only [if_pos hboth, decide_eq_true hself, if_true]
      cases lastReport request.managedInstances row.id with
      | none =>
          by_cases hexpects : expectsReport db request.nodeId row = true
          · simp [hexpects]
          · simp [hexpects]
      | some report => simp
    · have hexpects : expectsReport db request.nodeId row = false := by
        simp [expectsReport, hself]
      simp [hexpects, hself]
  · rw [if_neg hnode, if_neg fun h => hnode h.1]
    exact hstatus

/-- Writes of the status take no instance away and end no task. -/
theorem after_setStatus (b : Board) (changes : List Change)
    (h : ∀ change ∈ changes, ∃ instanceId status, change = .setStatus instanceId status) :
    (b.afterAll changes).live = b.live ∧
      ∀ instanceId, ((b.afterAll changes).status instanceId).isSome = (b.status instanceId).isSome := by
  induction changes generalizing b with
  | nil => exact ⟨rfl, fun _ => rfl⟩
  | cons change changes ih =>
      obtain ⟨instanceId, status, rfl⟩ := h change List.mem_cons_self
      obtain ⟨hlive, hisSome⟩ := ih (b.after (.setStatus instanceId status))
        fun change' hmem => h change' (List.mem_cons_of_mem _ hmem)
      refine ⟨hlive, fun instanceId' => (hisSome instanceId').trans ?_⟩
      change Option.isSome (Function.update b.status instanceId _ instanceId') = _
      by_cases hid : instanceId' = instanceId
      · rw [hid, Function.update_self, Option.isSome_map]
      · rw [Function.update_of_ne hid]

theorem heartbeatChanges_setStatus (db : Db) (request : HeartbeatRequest) :
    ∀ change ∈ heartbeatChanges db request,
      ∃ instanceId status, change = .setStatus instanceId status := by
  intro change hmem
  unfold heartbeatChanges at hmem
  split at hmem
  · rcases List.mem_append.mp hmem with hreported | hmissing
    · obtain ⟨report, -, rfl⟩ := List.mem_map.mp hreported
      exact ⟨_, _, rfl⟩
    · obtain ⟨id, -, rfl⟩ := List.mem_map.mp hmissing
      exact ⟨_, _, rfl⟩
  · exact (List.not_mem_nil hmem).elim

theorem live_after_heartbeat (db : Db) (request : HeartbeatRequest) :
    (db.board.afterAll (heartbeatChanges db request)).live = db.board.live :=
  (after_setStatus db.board _ (heartbeatChanges_setStatus db request)).1

theorem isSome_status_after_heartbeat (db : Db) (request : HeartbeatRequest) (instanceId : String) :
    ((db.board.afterAll (heartbeatChanges db request)).status instanceId).isSome
      = (db.board.status instanceId).isSome :=
  (after_setStatus db.board _ (heartbeatChanges_setStatus db request)).2 instanceId

end LightAI.Server
