import LightAI.Server.Served

/-!
# What the creation of an instance inserts

The creation of an instance is reads, then one `INSERT`. A local instance that is not Ollama's gets the model
of its file, which is live, verified and on the instance's node.
-/

namespace LightAI.Server

/-- The model and the file of a new local instance. -/
def NewLocalModel (db : Db) (request : ModelInstanceCreateRequest) (row : ModelInstance)
    (env : RuntimeEnvironment) : Prop :=
  if env.backend = "ollama" then row.modelId = none ∧ row.modelFileId = none
  else ∃ fileId file, request.modelFileId = some fileId ∧ db.modelFiles.find? fileId = some file ∧
    file.deletedAt = none ∧ file.status = "verified" ∧ row.nodeId = some file.nodeId ∧
    row.modelId = some file.modelId ∧ row.modelFileId = some fileId

/-- What is inserted for a local instance. -/
structure NewLocalInstance (db : Db) (request : ModelInstanceCreateRequest) (row : ModelInstance) where
  envId : String
  env : RuntimeEnvironment
  isLocal : row.deployType = "local"
  requested : request.runtimeEnvironmentId = some envId
  runtime : row.runtimeEnvironmentId = some envId
  find_env : db.runtimeEnvironments.find? envId = some env
  model : NewLocalModel db request row env

theorem serve_localInstanceModel_ok {request : ModelInstanceCreateRequest} {nodeId : String}
    {env : RuntimeEnvironment} {params : Json} {model : Option String × Option String} {db db' : Db}
    (h : serve (localInstanceModel request nodeId env params) db = (.ok model, db'))
    {row : ModelInstance} (hmodel : row.modelId = model.1) (hfile : row.modelFileId = model.2)
    (hnode : row.nodeId = some nodeId) : NewLocalModel db request row env := by
  unfold NewLocalModel
  unfold localInstanceModel at h
  by_cases hollama : env.backend = "ollama"
  · rw [if_pos hollama] at h ⊢
    obtain ⟨_, _, _, h⟩ := serve_bind_eq_ok h
    have hnone : ((none, none) : Option String × Option String) = model :=
      Except.ok.inj (congrArg Prod.fst h)
    rw [hmodel, hfile, ← hnone]
    exact ⟨rfl, rfl⟩
  · rw [if_neg hollama] at h ⊢
    obtain ⟨fileId, db₁, hrequired, h⟩ := serve_bind_eq_ok h
    obtain rfl : db = db₁ := (serve_of_reads (uses_required _ _) db).symm.trans
      (congrArg Prod.snd hrequired)
    obtain ⟨taskFile, db₂, hverified, h⟩ := serve_bind_eq_ok h
    obtain ⟨file, hfind, hlive, hstatus, rfl⟩ := serve_verifiedModelFileForInstance_ok hverified
    obtain ⟨_, _, hsame, h⟩ := serve_bind_eq_ok h
    have hsameNode : file.nodeId = nodeId := of_not_not (of_decide_eq_false (serve_rejectIf_ok hsame))
    have hsome : (some file.modelId, some fileId) = model := Except.ok.inj (congrArg Prod.fst h)
    rw [hmodel, hfile, hnode, ← hsome, ← hsameNode]
    exact ⟨fileId, file, serve_required_ok hrequired, hfind, hlive, hstatus, rfl, rfl, rfl⟩

/-- The end of a creation is refused, or it inserts its row. -/
theorem serve_insertModelInstance (row : ModelInstance) (id : String) (db : Db) :
    let h : Handler ModelInstanceView := do
      inserted (← execute (.insertModelInstance row))
      modelInstance id
    (∃ e, serve h db = (.error e, db)) ∨
      (serve h db).2 = ((Stmt.insertModelInstance row).exec db).2 := by
  dsimp only
  have hserve := serve_execute (.insertModelInstance row) db
  cases hanswer : ((Stmt.insertModelInstance row).exec db).1 with
  | false =>
      have hsame : ((Stmt.insertModelInstance row).exec db).2 = db := insertRow_refused hanswer
      rw [hanswer, hsame] at hserve
      exact .inl ⟨_, (serve_bind_ok hserve _).trans rfl⟩
  | true =>
      rw [hanswer] at hserve
      have hrest := serve_of_reads (uses_modelInstance id) ((Stmt.insertModelInstance row).exec db).2
      exact .inr ((congrArg Prod.snd (serve_bind_ok hserve _)).trans hrest)

/-- The creation fails and leaves everything as it is, or it inserts the row of an external instance or
of a local one. -/
theorem serve_createModelInstance_cases (deps : External) (request : ModelInstanceCreateRequest)
    (id : String) (db : Db) :
    (∃ e, serve (createModelInstance deps request id) db = (.error e, db)) ∨
    ∃ row : ModelInstance, row.id = id ∧ row.deployType = request.deployType.getD "external" ∧
      (row.deployType = "local" → Nonempty (NewLocalInstance db request row)) ∧
      (serve (createModelInstance deps request id) db).2
        = ((Stmt.insertModelInstance row).exec db).2 := by
  unfold createModelInstance
  rcases serve_reads_bind (uses_checked _) _ db with hfails | ⟨_, -, h⟩
  · exact .inl hfails
  rw [h]
  rcases serve_reads_bind (uses_checked _) _ db with hfails | ⟨_, -, h⟩
  · exact .inl hfails
  rw [h]
  dsimp only
  rcases serve_reads_bind (uses_checked _) _ db with hfails | ⟨_, -, h⟩
  · exact .inl hfails
  rw [h]
  by_cases hlocal : request.deployType.getD "external" = "local"
  · rw [if_pos hlocal]
    unfold createLocalModelInstance
    rcases serve_reads_bind (uses_checked _) _ db with hfails | ⟨_, -, h⟩
    · exact .inl hfails
    rw [h]
    rcases serve_reads_bind (uses_checked _) _ db with hfails | ⟨params, -, h⟩
    · exact .inl hfails
    rw [h]
    rcases serve_reads_bind (uses_required _ _) _ db with hfails | ⟨nodeId, -, h⟩
    · exact .inl hfails
    rw [h]
    rcases serve_reads_bind (uses_required _ _) _ db with hfails | ⟨envId, henvId, h⟩
    · exact .inl hfails
    rw [h]
    rcases serve_reads_bind (uses_runtimeEnvironment _) _ db with hfails | ⟨env, henv, h⟩
    · exact .inl hfails
    rw [h]
    rcases serve_reads_bind (uses_rejectIf _ _) _ db with hfails | ⟨_, -, h⟩
    · exact .inl hfails
    rw [h]
    rcases serve_reads_bind (uses_rejectIf _ _) _ db with hfails | ⟨_, -, h⟩
    · exact .inl hfails
    rw [h]
    rcases serve_reads_bind (uses_localInstanceModel _ _ _ _) _ db with hfails | ⟨model, hmodel, h⟩
    · exact .inl hfails
    rw [h, serve_bind_ok (serve_nowUnixSecs db)]
    have hfind : db.runtimeEnvironments.find? envId = some env := by
      unfold runtimeEnvironment at henv
      rw [serve_bind_ok (serve_query _ db)] at henv
      exact serve_required_ok henv
    rcases serve_insertModelInstance _ id db with hfails | hinserted
    · exact .inl hfails
    · refine .inr ⟨_, rfl, hlocal.symm, fun _ => ⟨?_⟩, hinserted⟩
      exact
        { envId, env
          isLocal := rfl
          requested := serve_required_ok henvId
          runtime := rfl
          find_env := hfind
          model := serve_localInstanceModel_ok hmodel rfl rfl rfl }
  · rw [if_neg hlocal]
    unfold createExternalModelInstance
    dsimp only
    rcases serve_reads_bind (uses_checked _) _ db with hfails | ⟨_, -, h⟩
    · exact .inl hfails
    rw [h]
    rcases serve_reads_bind (uses_checked _) _ db with hfails | ⟨_, -, h⟩
    · exact .inl hfails
    rw [h]
    rcases serve_reads_bind (uses_checked _) _ db with hfails | ⟨_, -, h⟩
    · exact .inl hfails
    rw [h]
    rcases serve_reads_bind (uses_checked _) _ db with hfails | ⟨_, -, h⟩
    · exact .inl hfails
    rw [h]
    rcases serve_reads_bind (uses_checked _) _ db with hfails | ⟨_, -, h⟩
    · exact .inl hfails
    rw [h]
    rcases serve_reads_bind (uses_ensureInstanceModel _) _ db with hfails | ⟨_, -, h⟩
    · exact .inl hfails
    rw [h, serve_bind_ok (serve_nowUnixSecs db)]
    rcases serve_insertModelInstance _ id db with hfails | hinserted
    · exact .inl hfails
    · exact .inr ⟨_, rfl, rfl, fun hdeploy => absurd hdeploy hlocal, hinserted⟩

end LightAI.Server
