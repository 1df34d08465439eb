import LightAI.Server.Effects
import LightAI.Server.ReconciledRows

/-!
# What a statement does to the instances

An instance that is stored after a statement has just been inserted, or it comes of a stored instance by
one of the writes below. What no write changes stays the same over every run.
-/

namespace LightAI.Server

/-- The writes on a stored instance, one constructor for each statement that makes one. -/
inductive Stmt.Rewrites : Stmt → ModelInstance → ModelInstance → Prop
  | kept (stmt : Stmt) (row : ModelInstance) : Rewrites stmt row row
  | pending (task : NewAgentTask) (status : String) (now : Int) (row : ModelInstance) :
      Rewrites (.enqueueInstanceTask task row.id status now) row (row.pending status now)
  | check (status : String) (error : Option String) (now : Int) (row : ModelInstance) :
      Rewrites (.updateInstanceCheck row.id status error now) row (row.check status error now)
  | updateLocal (update : LocalInstanceUpdate) (now : Int) (row : ModelInstance) :
      Rewrites (.updateLocalInstance row.id update now) row (row.updateLocal update now)
  | updateExternal (update : ExternalInstanceUpdate) (now : Int) (row : ModelInstance) :
      Rewrites (.updateExternalInstance row.id update now) row (row.updateExternal update now)
  | setLogTail (logTail : String) (now : Int) (row : ModelInstance) :
      Rewrites (.setInstanceLogTail row.id logTail now) row (row.setLogTail logTail now)
  | result (selected : AgentTask) (status : ResultStatus) (result : Json) (now : Int)
      (row : ModelInstance) (hnames : selected.entity = some (.instance row.id)) :
      Rewrites (.recordResult selected status result now) row
        (row.applyResult selected.kind status result now)
  | reported (request : HeartbeatRequest) (now : Int) (db : Db) (row : ModelInstance) :
      Rewrites (.recordHeartbeat request now) row
        (reconciledRow db request.nodeId request.managedInstances now row)

/-- An update by key rewrites the row of that key and keeps the others. -/
theorem rewrites_update {stmt : Stmt} {instances : Instances} {id : String}
    {f : ModelInstance → ModelInstance} (hf : ∀ row, (f row).id = row.id)
    (hstmt : ∀ row, row.id = id → stmt.Rewrites row (f row)) {row' : ModelInstance}
    (hmem : row' ∈ (instances.update id f hf).rows) :
    ∃ row ∈ instances.rows, stmt.Rewrites row row' := by
  obtain ⟨row, hrow, hrow'⟩ := Table.mem_updateWhere.mp hmem
  refine ⟨row, hrow, ?_⟩
  rw [hrow']
  by_cases hid : row.id = id
  · rw [if_pos (decide_eq_true hid)]
    exact hstmt row hid
  · rw [if_neg (by simpa using hid)]
    exact .kept stmt row

theorem insertTask_instances {db : Db} {task : NewAgentTask} {commit : Db → Db} {row' : ModelInstance}
    (hmem : row' ∈ (insertTask db task commit).2.modelInstances.rows) :
    row' ∈ db.modelInstances.rows ∨
      ∃ agentTasks, row' ∈ (commit { db with agentTasks }).modelInstances.rows := by
  unfold insertTask insertRow at hmem
  split at hmem
  · split at hmem
    · exact .inl hmem
    · exact .inr ⟨_, hmem⟩
  · exact .inl hmem

/-- An instance that is stored after a statement has been inserted by it or comes of a stored one. -/
theorem modelInstances_exec (stmt : Stmt) (db : Db) {row' : ModelInstance}
    (hmem : row' ∈ (stmt.exec db).2.modelInstances.rows) :
    stmt = .insertModelInstance row' ∨ ∃ row ∈ db.modelInstances.rows, stmt.Rewrites row row' := by
  have hsame : row' ∈ db.modelInstances.rows →
      stmt = .insertModelInstance row' ∨ ∃ row ∈ db.modelInstances.rows, stmt.Rewrites row row' :=
    fun h => .inr ⟨row', h, .kept stmt row'⟩
  cases stmt with
  | insertAgentTask task =>
      rcases insertTask_instances hmem with h | ⟨agentTasks, h⟩
      · exact hsame h
      · exact hsame h
  | enqueueInstanceTask task id status now =>
      rcases insertTask_instances hmem with h | ⟨agentTasks, h⟩
      · exact hsame h
      · refine .inr (rewrites_update (f := (·.pending status now)) (fun _ => rfl) ?_ h)
        rintro row rfl
        exact .pending task status now row
  | enqueueFileVerification task fileId message now =>
      rcases insertTask_instances hmem with h | ⟨agentTasks, h⟩
      · exact hsame h
      · exact hsame h
  | recordResult selected status result now =>
      rw [exec_recordResult_modelInstances] at hmem
      cases hentity : selected.entity with
      | none =>
          rw [hentity] at hmem
          exact hsame hmem
      | some entity =>
          rw [hentity] at hmem
          cases entity with
          | «instance» id =>
              refine .inr (rewrites_update (f := (·.applyResult selected.kind status result now))
                (fun _ => rfl) ?_ hmem)
              rintro row rfl
              exact .result selected status result now row hentity
          | file id => exact hsame hmem
          | trash id => exact hsame hmem
  | insertModelFile file =>
      have heq : ((Stmt.insertModelFile file).exec db).2.modelInstances = db.modelInstances :=
        insertRow_projection Db.modelInstances db _ _ file fun _ => rfl
      rw [heq] at hmem
      exact hsame hmem
  | insertTrash item =>
      have heq : ((Stmt.insertTrash item).exec db).2.modelInstances = db.modelInstances :=
        insertRow_projection Db.modelInstances db _ _ item fun _ => rfl
      rw [heq] at hmem
      exact hsame hmem
  | insertRuntime row =>
      have heq : ((Stmt.insertRuntime row).exec db).2.modelInstances = db.modelInstances :=
        insertRow_projection Db.modelInstances db _ _ row fun _ => rfl
      rw [heq] at hmem
      exact hsame hmem
  | insertModelInstance row =>
      simp only [Stmt.exec, insertRow] at hmem
      split at hmem
      · split at hmem
        · exact hsame hmem
        · rename_i table hinsert
          rw [show table.rows = _ from Table.insert?_rows hinsert] at hmem
          rcases List.mem_append.mp hmem with h | h
          · exact hsame h
          · rw [List.mem_singleton.mp h]
            exact .inl rfl
      · exact hsame hmem
  | updateInstanceCheck id status error now =>
      refine .inr (rewrites_update (f := (·.check status error now)) (fun _ => rfl) ?_ hmem)
      rintro row rfl
      exact .check status error now row
  | updateLocalInstance id update now =>
      refine .inr (rewrites_update (f := (·.updateLocal update now)) (fun _ => rfl) ?_ hmem)
      rintro row rfl
      exact .updateLocal update now row
  | updateExternalInstance id update now =>
      refine .inr (rewrites_update (f := (·.updateExternal update now)) (fun _ => rfl) ?_ hmem)
      rintro row rfl
      exact .updateExternal update now row
  | setInstanceLogTail id logTail now =>
      refine .inr (rewrites_update (f := (·.setLogTail logTail now)) (fun _ => rfl) ?_ hmem)
      rintro row rfl
      exact .setLogTail logTail now row
  | deleteModelInstance id => exact hsame (List.mem_of_mem_filter hmem)
  | deleteRuntime id =>
      simp only [Stmt.exec] at hmem
      split at hmem
      · exact hsame hmem
      · exact hsame hmem
  | recordHeartbeat request now =>
      simp only [Stmt.exec] at hmem
      split at hmem
      · exact hsame hmem
      · have hfind := Table.find?_of_mem hmem
        rw [find?_reconcile] at hfind
        obtain ⟨row, hrow, rfl⟩ := Option.map_eq_some_iff.mp hfind
        exact .inr ⟨row, Table.find?_mem hrow, .reported request now _ row⟩
  | _ => exact hsame hmem

/-! ### What no statement changes -/

/-- A column that neither a report nor a missing one writes is the same after a heartbeat. -/
theorem reconciledRow_column {γ : Type} (column : ModelInstance → γ)
    (hreport : ∀ row report now, column (ModelInstance.applyReport row report now) = column row)
    (hunreported : ∀ row now, column (ModelInstance.unreported row now) = column row) (db : Db)
    (nodeId : String) (reports : List ManagedInstanceReport) (now : Int) (row : ModelInstance) :
    column (reconciledRow db nodeId reports now row) = column row := by
  unfold reconciledRow reportedRow
  split
  · exact hunreported row now
  · clear * - hreport
    induction reports generalizing row with
    | nil => rfl
    | cons report reports ih =>
        rw [List.foldl_cons, ih]
        split
        · exact hreport row report now
        · rfl

/-- What an instance belongs to. -/
structure ModelInstance.SameLinks (row row' : ModelInstance) : Prop where
  id : row'.id = row.id
  modelId : row'.modelId = row.modelId
  modelFileId : row'.modelFileId = row.modelFileId
  nodeId : row'.nodeId = row.nodeId
  runtimeEnvironmentId : row'.runtimeEnvironmentId = row.runtimeEnvironmentId
  deployType : row'.deployType = row.deployType

theorem ModelInstance.SameLinks.refl (row : ModelInstance) : row.SameLinks row :=
  ⟨rfl, rfl, rfl, rfl, rfl, rfl⟩

theorem ModelInstance.SameLinks.trans {row row' row'' : ModelInstance} (h : row.SameLinks row')
    (h' : row'.SameLinks row'') : row.SameLinks row'' where
  id := h'.id.trans h.id
  modelId := h'.modelId.trans h.modelId
  modelFileId := h'.modelFileId.trans h.modelFileId
  nodeId := h'.nodeId.trans h.nodeId
  runtimeEnvironmentId := h'.runtimeEnvironmentId.trans h.runtimeEnvironmentId
  deployType := h'.deployType.trans h.deployType

theorem Stmt.Rewrites.sameLinks {stmt : Stmt} {row row' : ModelInstance} (h : stmt.Rewrites row row') :
    row.SameLinks row' := by
  cases h with
  | reported request now db =>
      constructor <;> exact reconciledRow_column _ (fun _ _ _ => rfl) (fun _ _ => rfl) _ _ _ _ _
  | _ => exact ⟨rfl, rfl, rfl, rfl, rfl, rfl⟩

theorem Stmt.Rewrites.paramsJson {stmt : Stmt} {row row' : ModelInstance}
    (h : stmt.Rewrites row row') :
    row'.paramsJson = row.paramsJson ∨
      (∃ update now, stmt = .updateLocalInstance row.id update now ∧
        row'.paramsJson = update.paramsJson) ∨
      ∃ update now, stmt = .updateExternalInstance row.id update now ∧
        row'.paramsJson = update.paramsJson := by
  cases h with
  | updateLocal update now => exact .inr (.inl ⟨update, now, rfl, rfl⟩)
  | updateExternal update now => exact .inr (.inr ⟨update, now, rfl, rfl⟩)
  | reported request now db =>
      exact .inl (reconciledRow_column (·.paramsJson) (fun _ _ _ => rfl) (fun _ _ => rfl) _ _ _ _ _)
  | _ => exact .inl rfl

end LightAI.Server
