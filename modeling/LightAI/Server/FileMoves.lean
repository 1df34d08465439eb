import LightAI.Server.DeletedModels

/-!
# The nodes of the files that instances use

The creation of a local instance asks for a file on the instance's node, and an instance never changes its
node or its file. An update may move the file, though, and a start does not ask again where it is. As long
as no file is moved away from an instance, every start is enqueued for the node of its file.
-/

namespace LightAI.Server

/-- The file that a local instance names is stored, on the node of the instance. -/
def FilesOnNodes (db : Db) : Prop :=
  ∀ row ∈ db.modelInstances.rows, row.deployType = "local" → ∀ fileId,
    row.modelFileId = some fileId →
      ∃ file, db.modelFiles.find? fileId = some file ∧ row.nodeId = some file.nodeId

/-- An update of a file that comes to its write leaves the file on the node of every local instance that
names it. -/
def KeepsNodes (s : Platform) : PlatformOperation → Prop
  | .resume index =>
      match s.waiting[index]? with
      | some (.plain (.updateModelFile id request taskId _)) =>
          ((s.db.agentTasks.find? taskId).bind (·.verifiedFile s.db.clock)).isSome = true →
          ∀ row ∈ s.db.modelInstances.rows, row.deployType = "local" → row.modelFileId = some id →
            row.nodeId = some request.nodeId
      | _ => True
  | _ => True

/-- The start of an instance whose runtime environment is not Ollama's carries the path of a live and
verified file on the node that the task is for. -/
def StartsOnNode (deps : External) (s : Platform) (op : PlatformOperation) : Prop :=
  ∀ id taskId rounds, op = .serve (.plain (.startModelInstance id taskId rounds)) →
    (serve (enqueueLocalInstanceTask deps id .startModelInstance "starting" taskId) s.db).1 = .ok () →
    ∀ row envId env, s.db.modelInstances.find? id = some row →
      row.runtimeEnvironmentId = some envId → s.db.runtimeEnvironments.find? envId = some env →
      env.backend ≠ "ollama" →
      ∃ task file, (op.perform deps s).db.agentTasks.find? taskId = some task ∧
        task.kind = .startModelInstance ∧
        task.payloadJson.getStr "model_path" = some file.path ∧
        file ∈ (op.perform deps s).db.modelFiles.rows ∧ file.deletedAt = none ∧
        file.status = "verified" ∧ file.nodeId = task.nodeId

/-! ### Statements -/

/-- The statement moves no file away from an instance, and inserts none away from its file. -/
def Stmt.KeepsNodes (db : Db) : Stmt → Prop
  | insertModelInstance row =>
      row.deployType = "local" → ∀ fileId, row.modelFileId = some fileId →
        ∃ file, db.modelFiles.find? fileId = some file ∧ row.nodeId = some file.nodeId
  | updateModelFile fileId nodeId _ _ _ =>
      ∀ row ∈ db.modelInstances.rows, row.deployType = "local" → row.modelFileId = some fileId →
        row.nodeId = some nodeId
  | _ => True

theorem filesOnNodes_exec {stmt : Stmt} {db : Db} (hstmt : stmt.KeepsNodes db) (h : FilesOnNodes db) :
    FilesOnNodes (stmt.exec db).2 := by
  intro row' hmem hlocal fileId hfileId
  rcases modelInstances_exec stmt db hmem with rfl | ⟨row, hrow, hrewrites⟩
  · obtain ⟨file, hfind, hnode⟩ := hstmt hlocal fileId hfileId
    obtain ⟨file', hfind', hrewritten⟩ := find?_file_exec_of_some (.insertModelInstance row') hfind
    rcases hrewritten.moves with ⟨hsame, -⟩ | ⟨verified, now, hmoved⟩
    · exact ⟨file', hfind', hnode.trans (congrArg some hsame.symm)⟩
    · cases hmoved
  · have hlinks := hrewrites.sameLinks
    rw [hlinks.deployType] at hlocal
    rw [hlinks.modelFileId] at hfileId
    obtain ⟨file, hfind, hnode⟩ := h row hrow hlocal fileId hfileId
    obtain ⟨file', hfind', hrewritten⟩ := find?_file_exec_of_some stmt hfind
    refine ⟨file', hfind', hlinks.nodeId.trans ?_⟩
    rcases hrewritten.moves with ⟨hsame, -⟩ | ⟨verified, now, rfl⟩
    · exact hnode.trans (congrArg some hsame.symm)
    · have hid : file.id = fileId := Table.find?_key hfind
      exact hstmt row hrow hlocal (hfileId.trans (congrArg some hid.symm))

/-- The kinds of writes that relate a file to an instance. -/
def placingWrites : List Write := [.insertModelInstance, .updateModelFile]

theorem respected_filesOnNodes {writes : List Write} (hother : ∀ w ∈ writes, w ∉ placingWrites) :
    Respected (fun db db' => FilesOnNodes db → FilesOnNodes db') writes where
  refl _ h := h
  trans _ _ _ h h' hdb := h' (h hdb)
  exec stmt db hamong h := by
    refine filesOnNodes_exec ?_ h
    have hnot : ∀ w, stmt.write = some w → w ∉ placingWrites := fun w hw => hother w (hamong w hw)
    cases stmt with
    | insertModelInstance row => exact absurd (by decide) (hnot _ rfl)
    | updateModelFile fileId nodeId path verified now => exact absurd (by decide) (hnot _ rfl)
    | _ => trivial
  models _ _ h := h

/-! ### Requests -/

section Requests

variable {db : Db}

theorem filesOnNodes_createModelInstance (deps : External) (request : ModelInstanceCreateRequest)
    (id : String) (hdb : FilesOnNodes db) :
    FilesOnNodes (serve (createModelInstance deps request id) db).2 := by
  rcases serve_createModelInstance_cases deps request id db with
    ⟨e, hfails⟩ | ⟨row, -, -, hlocal, hinserted⟩
  · rw [hfails]
    exact hdb
  · rw [hinserted]
    refine filesOnNodes_exec ?_ hdb
    intro hdeploy fileId hfileId
    obtain ⟨new⟩ := hlocal hdeploy
    have hnew := new.model
    unfold NewLocalModel at hnew
    split at hnew
    · rw [hnew.2] at hfileId
      cases hfileId
    · obtain ⟨fileId', file, -, hfind, -, -, hnode, -, hfileId'⟩ := hnew
      obtain rfl := Option.some.inj (hfileId'.symm.trans hfileId)
      exact ⟨file, hfind, hnode⟩

theorem filesOnNodes_finishFileUpdate (id : String) (request : ModelFileRequest) (taskId : String)
    (rounds : Nat)
    (hrequest : ((db.agentTasks.find? taskId).bind (·.verifiedFile db.clock)).isSome = true →
      ∀ row ∈ db.modelInstances.rows, row.deployType = "local" → row.modelFileId = some id →
        row.nodeId = some request.nodeId) (hdb : FilesOnNodes db) :
    FilesOnNodes (serve (finishFileUpdate id request taskId rounds) db).2 := by
  have huses : Uses [.markTaskTimedOut] (waitForModelFileVerification taskId rounds) :=
    uses_waitForModelFileVerification (by decide) taskId rounds
  have hwaited := huses.respects (respected_filesOnNodes (by decide)) db hdb
  unfold finishFileUpdate
  rcases serve_waitForVerification taskId rounds db with
    ⟨verified, hverified, hwait⟩ | ⟨-, e, db', hwait, -⟩
  · rw [serve_bind_ok hwait, serve_bind_ok (serve_nowUnixSecs db)]
    have hkeeps : (Stmt.updateModelFile id request.nodeId request.path verified db.clock).KeepsNodes db :=
      hrequest (by rw [hverified]; rfl)
    have hread : ∀ w ∈ fileReadWrites, w ∉ placingWrites := by decide
    refine (respected_filesOnNodes hread).after_execute (fun found => ?_) db
      (filesOnNodes_exec hkeeps hdb)
    cases (show Bool from found) with
    | true => exact uses_modelFile (by decide) id
    | false => exact uses_throw _
  · rw [hwait] at hwaited
    rw [serve_bind_error hwait]
    exact hwaited

theorem filesOnNodes_begin (deps : External) (request : PlatformRequest) (hdb : FilesOnNodes db) :
    FilesOnNodes (request.begin deps db).2 := by
  have hother : (∀ w ∈ request.writes, w ∉ placingWrites) → FilesOnNodes (request.begin deps db).2 :=
    fun hwrites => respected_begin deps request (respected_filesOnNodes hwrites) db hdb
  cases request with
  | createModel request id fileId taskId rounds =>
      apply hother
      simp only [PlatformRequest.writes]
      decide
  | deleteModel id trashId =>
      apply hother
      simp only [PlatformRequest.writes]
      decide
  | plain request =>
      cases request
      case createModelInstance request id =>
          rw [db_begin_plain]
          change FilesOnNodes (serve (ended (answered (createModelInstance deps request id))) db).2
          rw [serve_ended_answered]
          exact filesOnNodes_createModelInstance deps request id hdb
      case updateModelFile id request taskId rounds =>
          rw [db_begin_plain]
          have huses : Uses [.insertAgentTask] (waits (beginFileUpdate request taskId)) :=
            uses_bind (uses_beginFileUpdate request taskId) fun _ => uses_pure _
          exact huses.respects (respected_filesOnNodes (by decide)) db hdb
      all_goals
        apply hother
        simp only [PlatformRequest.writes, Request.writes]
        decide

end Requests

/-! ### Runs -/

theorem filesOnNodes_finish {s : Platform} (hs : FilesOnNodes s.db) {index : Nat}
    {request : PlatformRequest} (hget : s.waiting[index]? = some request)
    (hop : KeepsNodes s (.resume index)) : FilesOnNodes (request.finish s.db) := by
  simp only [KeepsNodes, hget] at hop
  have hother : (∀ w ∈ request.writes, w ∉ placingWrites) → FilesOnNodes (request.finish s.db) :=
    fun hwrites => respected_finish request (respected_filesOnNodes hwrites) s.db hs
  cases request with
  | createModel request id fileId taskId rounds =>
      apply hother
      simp only [PlatformRequest.writes]
      decide
  | deleteModel id trashId => exact hs
  | plain request =>
      cases request
      case createModelInstance request id => exact hs
      case updateModelFile id request taskId rounds =>
          change FilesOnNodes (serve (answered (finishFileUpdate id request taskId rounds)) s.db).2
          rw [answered, serve_then_pure]
          exact filesOnNodes_finishFileUpdate id request taskId rounds hop hs
      all_goals
        apply hother
        simp only [PlatformRequest.writes, Request.writes]
        decide

theorem filesOnNodes_perform (deps : External) (s : Platform) (op : PlatformOperation)
    (hs : FilesOnNodes s.db) (hop : KeepsNodes s op) : FilesOnNodes (op.perform deps s).db := by
  cases op with
  | serve request => exact filesOnNodes_begin deps request hs
  | resume index =>
      simp only [PlatformOperation.perform]
      split
      · exact hs
      · rename_i request hget
        exact filesOnNodes_finish hs hget hop
  | act action => cases action <;> exact hs

theorem getStr_modelPath (deps : External) (row : ModelInstanceView) (runtimeEnvironmentId : String)
    (env : RuntimeEnvironment) (params : Json) (fileId : String) (file : InstanceModelFile) :
    (instanceTaskPayload deps row runtimeEnvironmentId env params (some (fileId, file))).getStr
      "model_path" = some file.path := by
  unfold instanceTaskPayload
  rw [getStr_completePayload _ _ _ (by decide) (by decide)]
  rfl

theorem startsOnNode_of_filesOnNodes (deps : External) (s : Platform) (op : PlatformOperation)
    (hs : FilesOnNodes s.db) : StartsOnNode deps s op := by
  rintro id taskId rounds rfl hok row envId env hrow hruntime henv hbackend
  rcases serve_enqueue_cases deps id .startModelInstance "starting" taskId s.db with
    ⟨e, hfails⟩ | ⟨task, ⟨hfor⟩, haccepted, hserve⟩
  · rw [hfails] at hok
    cases hok
  obtain rfl := Option.some.inj (hfor.find_row.symm.trans hrow)
  obtain rfl := Option.some.inj (hfor.runtime.symm.trans hruntime)
  obtain rfl := Option.some.inj (hfor.find_env.symm.trans henv)
  have hdb : ((PlatformOperation.serve (.plain (.startModelInstance id taskId rounds))).perform
      deps s).db = ((Stmt.enqueueInstanceTask task id "starting" s.db.clock).exec s.db).2 := by
    change ((PlatformRequest.plain (.startModelInstance id taskId rounds)).begin deps s.db).2 = _
    rw [db_begin_plain]
    change (serve (waits (enqueueLocalInstanceTask deps id .startModelInstance "starting" taskId))
      s.db).2 = _
    exact congrArg Prod.snd ((serve_bind_ok hserve _).trans rfl)
  have hfile := hfor.taskFile
  cases htaskFile : hfor.file with
  | none =>
      rw [htaskFile] at hfile
      exact absurd hfile hbackend
  | some taskFile =>
      rw [htaskFile] at hfile
      obtain ⟨-, hfileId, file, hfind, hlive, hverified, -, hpath⟩ := hfile
      obtain ⟨file', hfind', hnode⟩ := hs _ (Table.find?_mem hrow) hfor.isLocal _ hfileId
      obtain rfl := Option.some.inj (hfind.symm.trans hfind')
      have hstored : ((Stmt.enqueueInstanceTask task id "starting" s.db.clock).exec
          s.db).2.agentTasks.find? taskId = some task.row := by
        rw [← hfor.id_eq]
        exact insertTask_stored (fun _ => rfl) haccepted
      obtain ⟨file', hkept, hrewritten⟩ :=
        find?_file_exec_of_some (.enqueueInstanceTask task id "starting" s.db.clock) hfind
      have hsame : file' = file := by
        cases hrewritten
        rfl
      subst hsame
      have hpayload : task.row.payloadJson.getStr "model_path" = some file'.path := by
        change task.payloadJson.getStr "model_path" = _
        rw [hfor.payload, htaskFile, getStr_modelPath, hpath]
      rw [hdb]
      exact ⟨task.row, file', hstored, hfor.kind_eq, hpayload, Table.find?_mem hkept, hlive, hverified,
        Option.some.inj (hnode.symm.trans hfor.node)⟩

/-- In a run that starts without instances and in which no file is moved away from an instance, every
start is for the node of its file. -/
theorem starts_on_node (deps : External) (db : Db) (ops : List PlatformOperation)
    (hops : Trace.Along (fun s op => PlatformOperation.perform deps s op) KeepsNodes
      { db := { db with modelInstances := .empty } } ops) :
    Trace.Along (fun s op => PlatformOperation.perform deps s op) (StartsOnNode deps)
      { db := { db with modelInstances := .empty } } ops := by
  have hinit : FilesOnNodes { db with modelInstances := .empty } :=
    fun _ hmem => absurd hmem List.not_mem_nil
  have hboth := hops.with_invariant (filesOnNodes_perform deps) hinit
  exact hboth.mono fun s op h => startsOnNode_of_filesOnNodes deps s op h.1

/-! ### A file that is moved away -/

/-- The file is on the first of two nodes. -/
def twoNodesDb : Db :=
  { readyDb with
    nodes := ⟨[{ id := "n", name := "node", lastHeartbeatAt := some 1000 },
      { id := "n2", name := "other", lastHeartbeatAt := some 1000 }], by decide⟩ }

/-- The instance is created and started where its file is. -/
theorem starts_on_node_example :
    Trace.Along (fun s op => PlatformOperation.perform noExternal s op) (StartsOnNode noExternal)
      { db := { twoNodesDb with modelInstances := .empty } }
      [.serve (.plain (.createModelInstance chatRequest "i")),
        .serve (.plain (.startModelInstance "i" "s" 0))] :=
  starts_on_node noExternal twoNodesDb _ ⟨trivial, trivial, trivial⟩

/-- An instance is created with the file, and the file is then moved to the other node. -/
def movingOps : List PlatformOperation :=
  [.serve (.plain (.createModelInstance chatRequest "i")),
    .serve (.plain (.updateModelFile "f" { nodeId := "n2", path := "/models/moved" } "t" 0)),
    .serve (.plain (.recordAgentTaskResult "t"
      { nodeId := "n2", status := "succeeded", result := .obj [] })),
    .resume 0]

def movedPlatform : Platform :=
  Trace.run (fun s op => PlatformOperation.perform noExternal s op)
    { db := { twoNodesDb with modelInstances := .empty } } movingOps

theorem ok_of_toOption {α : Type} {outcome : Except DomainError α} {value : α}
    (h : outcome.toOption = some value) : outcome = .ok value := by
  cases outcome with
  | error e => cases h
  | ok found => exact congrArg Except.ok (Option.some.inj h)

/-- The start of the instance is for the node that the file has left. -/
theorem moved_file_started :
    ¬∀ (deps : External) (db : Db) (ops : List PlatformOperation),
      Trace.Along (fun s op => PlatformOperation.perform deps s op) (StartsOnNode deps)
        { db := { db with modelInstances := .empty } } ops := by
  intro h
  have hrun := h noExternal twoNodesDb (movingOps ++ [.serve (.plain (.startModelInstance "i" "s" 0))])
  have hstart : StartsOnNode noExternal movedPlatform (.serve (.plain (.startModelInstance "i" "s" 0))) :=
    ((Trace.along_append _ _ _ _ _).mp hrun).2.1
  have hinstance : (movedPlatform.db.modelInstances.find? "i").bind (·.runtimeEnvironmentId) = some "r" := by
    decide +kernel
  have hbackend : (movedPlatform.db.runtimeEnvironments.find? "r").map (·.backend) = some "vllm" := by
    decide +kernel
  have haccepted : (serve (enqueueLocalInstanceTask noExternal "i" .startModelInstance "starting" "s")
      movedPlatform.db).1.toOption = some () := by
    decide +kernel
  have hfileNodes : (PlatformOperation.perform noExternal movedPlatform
      (.serve (.plain (.startModelInstance "i" "s" 0)))).db.modelFiles.rows.map ModelFile.nodeId = ["n2"] := by
    decide +kernel
  have htaskNode : ((PlatformOperation.perform noExternal movedPlatform
      (.serve (.plain (.startModelInstance "i" "s" 0)))).db.agentTasks.find? "s").map AgentTask.nodeId
        = some "n" := by
    decide +kernel
  obtain ⟨row, hrow, hruntime⟩ := Option.bind_eq_some_iff.mp hinstance
  obtain ⟨env, henv, hvllm⟩ := Option.map_eq_some_iff.mp hbackend
  have hother : env.backend ≠ "ollama" := by
    rw [hvllm]
    decide
  obtain ⟨task, file, htask, -, -, hfile, -, -, hnode⟩ :=
    hstart "i" "s" 0 rfl (ok_of_toOption haccepted) row "r" env hrow hruntime henv hother
  have hfiles := List.mem_map_of_mem (f := ModelFile.nodeId) hfile
  rw [hfileNodes, List.mem_singleton, hnode] at hfiles
  rw [htask, Option.map_some, hfiles] at htaskNode
  exact absurd (Option.some.inj htaskNode) (by decide)

end LightAI.Server
