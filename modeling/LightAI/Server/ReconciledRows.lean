import LightAI.Server.Reconcile

/-!
# What a heartbeat does to a row

The specification of `reconcile_managed_instances`, row by row: a local instance of the node is written
by the last of its reports, or as one that should have been reported and is not, or it is left alone.
-/

namespace LightAI.Server

/-- The rows that a node reports on. -/
def ModelInstance.isLocalOn (row : ModelInstance) (nodeId : String) : Prop :=
  row.nodeId = some nodeId ∧ row.deployType = "local"

/-- The status and the references to the process. -/
def ModelInstance.reportedColumns (row : ModelInstance) : String × Option Int × Option String :=
  (row.status, row.processId, row.processRef)

/-- The runtime environment of the row is there, and its backend is Ollama. -/
def Db.runsOnOllama (db : Db) (row : ModelInstance) : Prop :=
  ∃ runtimeId runtime, row.runtimeEnvironmentId = some runtimeId ∧
    db.runtimeEnvironments.find? runtimeId = some runtime ∧ runtime.backend = "ollama"

/-- The statuses that a report may give; any other is taken for `failed`. -/
def mappedStatus (status : String) : String :=
  if status ∈ ["running", "stopped", "failed"] then status else "failed"

/-- `row'` is what a heartbeat of the node with these reports must leave of `row`. -/
structure Reconciled (db : Db) (nodeId : String) (reports : List ManagedInstanceReport)
    (row row' : ModelInstance) : Prop where
  reported : row.isLocalOn nodeId → ∀ report, lastReport reports row.id = some report →
    row'.status = mappedStatus report.status ∧
      row'.processId = (if row'.status = "running" then report.processId else none) ∧
      row'.processRef = (if row'.status = "running" then report.processRef else none)
  unreported : row.isLocalOn nodeId → lastReport reports row.id = none →
    busyStatus row.status = true → ¬ db.runsOnOllama row →
    row'.status = "failed" ∧ row'.processId = none ∧ row'.processRef = none
  unchanged : ¬ (row.isLocalOn nodeId ∧ ((lastReport reports row.id).isSome = true ∨
    (busyStatus row.status = true ∧ ¬ db.runsOnOllama row))) → row' = row

/-! ### The two loops on one row -/

/-- The row once all its reports have been applied to it. -/
def reportedRow (nodeId : String) (now : Int) (reports : List ManagedInstanceReport)
    (row : ModelInstance) : ModelInstance :=
  reports.foldl (fun row report =>
    if takesReportRow nodeId report row then row.applyReport report now else row) row

theorem find?_applyReports (nodeId : String) (now : Int) (reports : List ManagedInstanceReport)
    (instances : Instances) (id : String) :
    (applyReports nodeId now reports instances).find? id
      = (instances.find? id).map (reportedRow nodeId now reports) := by
  induction reports generalizing instances with
  | nil => exact (Option.map_id' (x := instances.find? id)).symm
  | cons report reports ih =>
      have hfirst := Table.find?_updateWhere instances (takesReportRow nodeId report)
        (·.applyReport report now) (applyReport_id report now) id
      refine (ih _).trans ?_
      rw [hfirst, Option.map_map]
      rfl

theorem unreported_id (now : Int) (row : ModelInstance) : (row.unreported now).id = row.id := rfl

theorem find?_failUnreported (reportedIds : List String) (now : Int) (ids : List String)
    (instances : Instances) (id : String) :
    (failUnreported reportedIds now ids instances).find? id
      = (instances.find? id).map fun row =>
        if id ∈ ids ∧ id ∉ reportedIds then row.unreported now else row := by
  induction ids generalizing instances with
  | nil => simp [failUnreported]
  | cons first ids ih =>
      by_cases hreported : first ∈ reportedIds
      · have hskip : failUnreported reportedIds now (first :: ids) instances
            = failUnreported reportedIds now ids instances := by
          simp [failUnreported, hreported]
        rw [hskip, ih]
        have hsame : (id ∈ first :: ids ∧ id ∉ reportedIds) ↔ id ∈ ids ∧ id ∉ reportedIds := by
          constructor
          · rintro ⟨hmem, hnot⟩
            rcases List.mem_cons.mp hmem with rfl | hmem
            · exact absurd hreported hnot
            · exact ⟨hmem, hnot⟩
          · rintro ⟨hmem, hnot⟩
            exact ⟨List.mem_cons_of_mem _ hmem, hnot⟩
        simp only [hsame]
      · have hwrite : failUnreported reportedIds now (first :: ids) instances
            = failUnreported reportedIds now ids
              (instances.update first (·.unreported now) fun _ => rfl) := by
          simp [failUnreported, hreported]
        have hupdate := Table.find?_update instances first (·.unreported now) (unreported_id now) id
        rw [hwrite, ih]
        refine (congrArg (Option.map _) hupdate).trans ?_
        by_cases hid : id = first
        · subst hid
          rw [if_pos rfl, Option.map_map]
          congr 1
          funext row
          by_cases hmem : id ∈ ids
          · simp [hmem, hreported, ModelInstance.unreported]
          · simp [hmem, hreported]
        · simp [hid]

section ReportedRow

variable (nodeId : String) (now : Int) (reports : List ManagedInstanceReport) (row : ModelInstance)

/-- No report touches what decides whether reports are applied. -/
theorem reportedRow_kept :
    (reportedRow nodeId now reports row).id = row.id ∧
      (reportedRow nodeId now reports row).nodeId = row.nodeId ∧
      (reportedRow nodeId now reports row).deployType = row.deployType ∧
      (reportedRow nodeId now reports row).runtimeEnvironmentId = row.runtimeEnvironmentId := by
  induction reports generalizing row with
  | nil => exact ⟨rfl, rfl, rfl, rfl⟩
  | cons report reports ih =>
      have hrest := ih (if takesReportRow nodeId report row then row.applyReport report now else row)
      by_cases htakes : takesReportRow nodeId report row = true
      · rw [if_pos htakes] at hrest
        simp only [reportedRow, List.foldl_cons, if_pos htakes]
        exact hrest
      · rw [if_neg htakes] at hrest
        simp only [reportedRow, List.foldl_cons, if_neg htakes]
        exact hrest

theorem reportedRow_concat (report : ManagedInstanceReport) :
    reportedRow nodeId now (reports ++ [report]) row
      = if takesReportRow nodeId report row then
          (reportedRow nodeId now reports row).applyReport report now
        else reportedRow nodeId now reports row := by
  obtain ⟨hid, hnode, hdeploy, -⟩ := reportedRow_kept nodeId now reports row
  have htakes : takesReportRow nodeId report (reportedRow nodeId now reports row)
      = takesReportRow nodeId report row := by
    unfold takesReportRow
    rw [hid, hnode, hdeploy]
  rw [← htakes]
  exact List.foldl_concat _ _ _ _

variable {nodeId reports row}

theorem takesReportRow_iff (report : ManagedInstanceReport) :
    takesReportRow nodeId report row = true
      ↔ report.instanceId = row.id ∧ row.isLocalOn nodeId := by
  simp only [takesReportRow, ModelInstance.isLocalOn, Bool.and_eq_true, decide_eq_true_eq]
  constructor
  · rintro ⟨⟨hid, hnode⟩, hdeploy⟩
    exact ⟨hid.symm, hnode, hdeploy⟩
  · rintro ⟨hid, hnode, hdeploy⟩
    exact ⟨⟨hid.symm, hnode⟩, hdeploy⟩

/-- A row that takes no report stays as it is. -/
theorem reportedRow_of_untaken
    (h : ¬ (row.isLocalOn nodeId ∧ (lastReport reports row.id).isSome = true)) :
    reportedRow nodeId now reports row = row := by
  induction reports using List.reverseRecOn with
  | nil => rfl
  | append_singleton reports report ih =>
      rw [lastReport_concat] at h
      have hskip : ¬ takesReportRow nodeId report row = true := by
        rw [takesReportRow_iff]
        rintro ⟨hid, hlocal⟩
        exact h ⟨hlocal, by rw [if_pos hid]; rfl⟩
      rw [reportedRow_concat, if_neg hskip]
      apply ih
      rintro ⟨hlocal, hsome⟩
      by_cases hid : report.instanceId = row.id
      · exact h ⟨hlocal, by rw [if_pos hid]; rfl⟩
      · exact h ⟨hlocal, by rwa [if_neg hid]⟩

theorem reportStatus_eq (status : String) : reportStatus status = mappedStatus status := by
  unfold reportStatus mappedStatus
  split
  · rfl
  · rfl
  · rfl
  · rename_i hrunning hstopped hfailed
    rw [if_neg]
    simpa using ⟨hrunning, hstopped, hfailed⟩

/-- What a row that takes reports is left with by the last of them. -/
theorem reportedRow_of_taken (hlocal : row.isLocalOn nodeId) {report : ManagedInstanceReport}
    (hlast : lastReport reports row.id = some report) :
    (reportedRow nodeId now reports row).status = mappedStatus report.status ∧
      (reportedRow nodeId now reports row).processId
        = (if mappedStatus report.status = "running" then report.processId else none) ∧
      (reportedRow nodeId now reports row).processRef
        = (if mappedStatus report.status = "running" then report.processRef else none) := by
  induction reports using List.reverseRecOn with
  | nil => cases hlast
  | append_singleton reports last ih =>
      rw [lastReport_concat] at hlast
      rw [reportedRow_concat]
      by_cases hid : last.instanceId = row.id
      · rw [if_pos hid] at hlast
        obtain rfl := Option.some.inj hlast
        rw [if_pos ((takesReportRow_iff last).mpr ⟨hid, hlocal⟩), ← reportStatus_eq]
        exact ⟨rfl, rfl, rfl⟩
      · rw [if_neg hid] at hlast
        have hskip : ¬ takesReportRow nodeId last row = true :=
          fun htakes => hid ((takesReportRow_iff last).mp htakes).1
        rw [if_neg hskip]
        exact ih hlast

end ReportedRow

/-! ### The whole of it -/

section Reconcile

variable {db : Db} {nodeId : String} {reports : List ManagedInstanceReport}

theorem expectsReport_iff (db : Db) (nodeId : String) (row : ModelInstance) :
    expectsReport db nodeId row = true
      ↔ row.isLocalOn nodeId ∧ busyStatus row.status = true ∧ ¬ db.runsOnOllama row := by
  unfold expectsReport Db.runsOnOllama ModelInstance.isLocalOn
  cases hid : row.runtimeEnvironmentId with
  | none => simp [and_assoc]
  | some runtimeId =>
      cases hfind : db.runtimeEnvironments.find? runtimeId with
      | none => simp [hfind, and_assoc]
      | some runtime => simp [hfind, and_assoc]

/-- The row that reconciling leaves of a row. -/
def reconciledRow (db : Db) (nodeId : String) (reports : List ManagedInstanceReport) (now : Int)
    (row : ModelInstance) : ModelInstance :=
  if expectsReport db nodeId row ∧ row.id ∉ reports.map (·.instanceId) then row.unreported now
  else reportedRow nodeId now reports row

theorem find?_reconcile (db : Db) (nodeId : String) (reports : List ManagedInstanceReport)
    (now : Int) (id : String) :
    (reconcileManagedInstances db nodeId reports now).modelInstances.find? id
      = (db.modelInstances.find? id).map (reconciledRow db nodeId reports now) := by
  simp only [reconcileManagedInstances, find?_failUnreported, find?_applyReports, Option.map_map]
  cases hrow : db.modelInstances.find? id with
  | none => rfl
  | some row =>
      have hid : row.id = id := Table.find?_key hrow
      have hafter : (applyReports nodeId now reports db.modelInstances).find? id
          = some (reportedRow nodeId now reports row) := by
        rw [find?_applyReports, hrow]
        rfl
      have hmem : id ∈ ((applyReports nodeId now reports db.modelInstances).rows.filter
          (expectsReport db nodeId)).map (·.id)
            ↔ expectsReport db nodeId (reportedRow nodeId now reports row) = true := by
        simp only [List.mem_map, List.mem_filter]
        constructor
        · rintro ⟨row', ⟨hmem', hexpects⟩, hid'⟩
          have hfind := Table.find?_of_mem hmem'
          rw [hid', hafter] at hfind
          rwa [Option.some.inj hfind]
        · intro hexpects
          exact ⟨_, ⟨Table.find?_mem hafter, hexpects⟩,
            (reportedRow_kept nodeId now reports row).1.trans hid⟩
      simp only [Option.map_some, Function.comp_apply, hmem, reconciledRow, hid]
      by_cases hreported : id ∈ reports.map (·.instanceId)
      · rw [if_neg fun h => h.2 hreported, if_neg fun h => h.2 hreported]
      · have hnone : lastReport reports row.id = none := by
          rwa [lastReport_eq_none_iff, hid]
        have hsame : reportedRow nodeId now reports row = row :=
          reportedRow_of_untaken now fun h => by simp [hnone] at h
        rw [hsame]

/-- Only the instances change. -/
theorem runsOnOllama_reconcile (db : Db) (nodeId : String) (reports : List ManagedInstanceReport)
    (now : Int) {row row' : ModelInstance}
    (hruntime : row'.runtimeEnvironmentId = row.runtimeEnvironmentId) :
    (reconcileManagedInstances db nodeId reports now).runsOnOllama row' ↔ db.runsOnOllama row := by
  unfold Db.runsOnOllama
  rw [hruntime]
  rfl

theorem reconciled_reconciledRow (db : Db) (nodeId : String) (reports : List ManagedInstanceReport)
    (now : Int) (row : ModelInstance) :
    Reconciled db nodeId reports row (reconciledRow db nodeId reports now row) := by
  unfold reconciledRow
  have hmissing : expectsReport db nodeId row = true ∧ row.id ∉ reports.map (·.instanceId)
      ↔ (row.isLocalOn nodeId ∧ busyStatus row.status = true ∧ ¬ db.runsOnOllama row) ∧
        lastReport reports row.id = none := by
    rw [expectsReport_iff, lastReport_eq_none_iff]
  constructor
  · intro hlocal report hlast
    have hnot : ¬ (expectsReport db nodeId row = true ∧ row.id ∉ reports.map (·.instanceId)) := by
      rw [hmissing, hlast]
      rintro ⟨-, hnone⟩
      cases hnone
    rw [if_neg hnot]
    obtain ⟨hstatus, hid, href⟩ := reportedRow_of_taken now hlocal hlast
    exact ⟨hstatus, by rw [hstatus, hid], by rw [hstatus, href]⟩
  · intro hlocal hlast hbusy hollama
    rw [if_pos (hmissing.mpr ⟨⟨hlocal, hbusy, hollama⟩, hlast⟩)]
    exact ⟨rfl, rfl, rfl⟩
  · intro hother
    rw [if_neg fun h => hother ⟨(hmissing.mp h).1.1, .inr (hmissing.mp h).1.2⟩]
    exact reportedRow_of_untaken now fun h => hother ⟨h.1, .inl h.2⟩

/-- What a second heartbeat with the same reports finds and leaves. -/
theorem reconciledRow_twice (db : Db) (nodeId : String) (reports : List ManagedInstanceReport)
    {row row' row'' : ModelInstance} {db' : Db} (hid : row'.id = row.id)
    (hlocal : row'.isLocalOn nodeId ↔ row.isLocalOn nodeId)
    (hollama : db'.runsOnOllama row' ↔ db.runsOnOllama row)
    (hfirst : Reconciled db nodeId reports row row')
    (hsecond : Reconciled db' nodeId reports row' row'') :
    row''.reportedColumns = row'.reportedColumns := by
  by_cases hown : row.isLocalOn nodeId
  · cases hlast : lastReport reports row.id with
    | some report =>
        have hlast' : lastReport reports row'.id = some report := by rw [hid, hlast]
        obtain ⟨hstatus, hprocess, href⟩ := hfirst.reported hown report hlast
        obtain ⟨hstatus', hprocess', href'⟩ := hsecond.reported (hlocal.mpr hown) report hlast'
        have hsame : row''.status = row'.status := by rw [hstatus, hstatus']
        unfold ModelInstance.reportedColumns
        rw [hprocess', hprocess, href', href, hsame]
    | none =>
        -- the first heartbeat leaves no row that the second would have to fail
        have hidle : ¬ (busyStatus row'.status = true ∧ ¬ db'.runsOnOllama row') := by
          rintro ⟨hbusy, hnot⟩
          rw [hollama] at hnot
          by_cases hwas : busyStatus row.status = true
          · obtain ⟨hstatus, -, -⟩ := hfirst.unreported hown hlast hwas hnot
            rw [hstatus] at hbusy
            exact absurd hbusy (by decide)
          · have hsame := hfirst.unchanged fun h => by simp [hlast, hwas] at h
            rw [hsame] at hbusy
            exact hwas hbusy
        have hsame := hsecond.unchanged fun h => by
          rcases h.2 with hsome | hlive
          · rw [hid, hlast] at hsome
            cases hsome
          · exact hidle hlive
        rw [hsame]
  · have hsame := hsecond.unchanged fun h => hown (hlocal.mp h.1)
    rw [hsame]

theorem reconciledRow_kept (db : Db) (nodeId : String) (reports : List ManagedInstanceReport)
    (now : Int) (row : ModelInstance) :
    (reconciledRow db nodeId reports now row).id = row.id ∧
      ((reconciledRow db nodeId reports now row).isLocalOn nodeId ↔ row.isLocalOn nodeId) ∧
      (reconciledRow db nodeId reports now row).runtimeEnvironmentId = row.runtimeEnvironmentId := by
  unfold reconciledRow
  split
  · exact ⟨rfl, Iff.rfl, rfl⟩
  · obtain ⟨hid, hnode, hdeploy, hruntime⟩ := reportedRow_kept nodeId now reports row
    refine ⟨hid, ?_, hruntime⟩
    unfold ModelInstance.isLocalOn
    rw [hnode, hdeploy]

/-- Every row is left as the specification says, and a second heartbeat with the same reports changes
neither a status nor a reference. -/
theorem reconcile_meets_specification (db : Db) (nodeId : String)
    (reports : List ManagedInstanceReport) (now : Int) :
    (∀ id, match db.modelInstances.find? id,
        (reconcileManagedInstances db nodeId reports now).modelInstances.find? id with
      | some row, some row' => Reconciled db nodeId reports row row'
      | none, none => True
      | _, _ => False) ∧
    ∀ later id,
      ((reconcileManagedInstances (reconcileManagedInstances db nodeId reports now) nodeId reports
        later).modelInstances.find? id).map ModelInstance.reportedColumns
        = ((reconcileManagedInstances db nodeId reports now).modelInstances.find? id).map
            ModelInstance.reportedColumns := by
  constructor
  · intro id
    rw [find?_reconcile]
    cases db.modelInstances.find? id with
    | none => trivial
    | some row => exact reconciled_reconciledRow db nodeId reports now row
  · intro later id
    rw [find?_reconcile _ nodeId reports later, find?_reconcile db nodeId reports now]
    cases db.modelInstances.find? id with
    | none => rfl
    | some row =>
        obtain ⟨hid, hlocal, hruntime⟩ := reconciledRow_kept db nodeId reports now row
        have htwice := reconciledRow_twice db nodeId reports hid hlocal
          (runsOnOllama_reconcile db nodeId reports now hruntime)
          (reconciled_reconciledRow db nodeId reports now row)
          (reconciled_reconciledRow _ nodeId reports later _)
        exact congrArg some htwice

end Reconcile

end LightAI.Server
