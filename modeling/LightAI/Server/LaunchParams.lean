import LightAI.Server.InstanceRows
import LightAI.Server.Platform
import LightAI.Server.StaleCopies

/-!
# The launch parameters that are stored

A local instance is created with parameters that have been parsed as its start and its stop parse them.
An update only asks for the new parameters to be JSON. No other request writes them.
-/

namespace LightAI.Server

/-- The parameters are those that a start or a stop goes on with. -/
def AcceptsParams (deps : External) (paramsJson : Option String) : Prop :=
  ∃ params, parseInstanceParams deps paramsJson = .ok params

def ModelInstance.Startable (deps : External) (row : ModelInstance) : Prop :=
  row.deployType = "local" → AcceptsParams deps row.paramsJson

def AllStartable (deps : External) (db : Db) : Prop :=
  ∀ row ∈ db.modelInstances.rows, row.Startable deps

/-- An update of a local instance that goes through, and that sets the parameters, sets them to some that
are accepted. -/
def UpdatesParams (deps : External) (s : Platform) (op : PlatformOperation) : Prop :=
  ∀ id request row text, op = .serve (.plain (.updateModelInstance id request)) →
    s.db.modelInstances.find? id = some row → row.deployType = "local" →
    (busyStatus row.status && request.isConfigChange) = false →
    validateNonEmpty "name" (request.name.getD row.name) = .ok () →
    request.paramsJson = some text → validateJsonField deps "params_json" (some text) = .ok () →
    AcceptsParams deps (some text)

/-! ### Statements -/

/-- Where the statement writes parameters of a local instance, they are accepted. -/
def Stmt.StoresAccepted (deps : External) (db : Db) : Stmt → Prop
  | insertModelInstance row => row.Startable deps
  | updateLocalInstance id update _ =>
      ∀ row, db.modelInstances.find? id = some row → row.deployType = "local" →
        AcceptsParams deps update.paramsJson
  | updateExternalInstance id update _ =>
      ∀ row, db.modelInstances.find? id = some row → row.deployType = "local" →
        AcceptsParams deps update.paramsJson
  | _ => True

theorem allStartable_exec {deps : External} {stmt : Stmt} {db : Db}
    (hstores : stmt.StoresAccepted deps db) (hall : AllStartable deps db) :
    AllStartable deps (stmt.exec db).2 := by
  intro row' hmem
  rcases modelInstances_exec stmt db hmem with rfl | ⟨row, hrow, hrewrites⟩
  · exact hstores
  · have hstartable := hall row hrow
    have hfind : db.modelInstances.find? row.id = some row := Table.find?_of_mem hrow
    intro hlocal
    rw [hrewrites.sameLinks.deployType] at hlocal
    rcases hrewrites.paramsJson with hsame | ⟨update, now, rfl, hparams⟩ | ⟨update, now, rfl, hparams⟩
    · rw [hsame]
      exact hstartable hlocal
    · rw [hparams]
      exact hstores row hfind hlocal
    · rw [hparams]
      exact hstores row hfind hlocal

/-- The kinds of writes that may set parameters. -/
def paramsWrites : List Write := [.insertModelInstance, .updateLocalInstance, .updateExternalInstance]

theorem respected_allStartable (deps : External) {writes : List Write}
    (hother : ∀ w ∈ writes, w ∉ paramsWrites) :
    Respected (fun db db' => AllStartable deps db → AllStartable deps db') writes where
  refl _ h := h
  trans _ _ _ h h' hall := h' (h hall)
  exec stmt db hamong hall := by
    refine allStartable_exec ?_ hall
    have hnot : ∀ w, stmt.write = some w → w ∉ paramsWrites := fun w hw => hother w (hamong w hw)
    cases stmt with
    | insertModelInstance row => exact absurd (by decide) (hnot _ rfl)
    | updateLocalInstance id update now => exact absurd (by decide) (hnot _ rfl)
    | updateExternalInstance id update now => exact absurd (by decide) (hnot _ rfl)
    | _ => trivial
  models _ _ h := h

/-! ### Creating an instance -/

theorem Uses.storesAccepted {α : Type} {h : Handler α} (huses : Uses [] h) (deps : External) :
    OnlyStmts (fun stmt => ∀ db, stmt.StoresAccepted deps db) h := by
  refine only_of_uses huses fun stmt hamong db => ?_
  cases stmt with
  | select q => trivial
  | _ => exact absurd (hamong _ rfl) List.not_mem_nil

theorem createModelInstance_startable (deps : External) (request : ModelInstanceCreateRequest)
    (id : String) :
    OnlyStmts (fun stmt => ∀ db, stmt.StoresAccepted deps db) (createModelInstance deps request id) := by
  have hread : ∀ {β : Type} {h : Handler β}, Uses [] h →
      OnlyStmts (fun stmt => ∀ db, stmt.StoresAccepted deps db) h :=
    fun huses => huses.storesAccepted deps
  have hend : ∀ row : ModelInstance, row.Startable deps →
      OnlyStmts (fun stmt => ∀ db, stmt.StoresAccepted deps db) (do
        inserted (← execute (.insertModelInstance row))
        modelInstance id) := by
    intro row hrow
    refine Fallible.only_bind (Fallible.only_perform fun _ => hrow) fun accepted => ?_
    exact Fallible.only_bind (hread (uses_inserted _)) fun _ => hread (uses_modelInstance id)
  unfold createModelInstance
  refine Fallible.only_bind (hread (uses_checked _)) fun _ => ?_
  refine Fallible.only_bind (hread (uses_checked _)) fun _ => ?_
  refine Fallible.only_bind (hread (uses_checked _)) fun _ => ?_
  split
  · unfold createLocalModelInstance
    refine Fallible.only_bind (hread (uses_checked _)) fun _ => ?_
    cases hparams : parseInstanceParams deps request.paramsJson with
    | error e => exact Fallible.only_throw e
    | ok params =>
        refine Fallible.only_bind (hread (uses_checked _)) fun params => ?_
        refine Fallible.only_bind (hread (uses_required _ _)) fun nodeId => ?_
        refine Fallible.only_bind (hread (uses_required _ _)) fun envId => ?_
        refine Fallible.only_bind (hread (uses_runtimeEnvironment _)) fun env => ?_
        refine Fallible.only_bind (hread (uses_rejectIf _ _)) fun _ => ?_
        refine Fallible.only_bind (hread (uses_rejectIf _ _)) fun _ => ?_
        refine Fallible.only_bind (hread (uses_localInstanceModel _ _ _ _)) fun model => ?_
        refine Fallible.only_bind (hread uses_nowUnixSecs) fun now => ?_
        exact hend _ fun _ => ⟨_, hparams⟩
  · rename_i hdeploy
    unfold createExternalModelInstance
    refine Fallible.only_bind (hread (uses_checked _)) fun _ => ?_
    refine Fallible.only_bind (hread (uses_checked _)) fun _ => ?_
    refine Fallible.only_bind (hread (uses_checked _)) fun _ => ?_
    refine Fallible.only_bind (hread (uses_checked _)) fun _ => ?_
    refine Fallible.only_bind (hread (uses_checked _)) fun _ => ?_
    refine Fallible.only_bind (hread (uses_ensureInstanceModel _)) fun _ => ?_
    refine Fallible.only_bind (hread uses_nowUnixSecs) fun now => ?_
    exact hend _ fun hlocal => absurd hlocal hdeploy

/-! ### Updating an instance -/

/-- The update is refused, or it writes the row that it has read. -/
theorem serve_updateModelInstance_cases (deps : External) {id : String} {db : Db} {row : ModelInstance}
    (hrow : db.modelInstances.find? id = some row) (request : ModelInstanceUpdateRequest) :
    (serve (updateModelInstance deps id request) db).2 = db ∧
        (row.deployType = "local" → (busyStatus row.status && request.isConfigChange) = false →
          validateNonEmpty "name" (request.name.getD row.name) = .ok () →
          validateJsonField deps "params_json" (request.paramsJson.or row.paramsJson) ≠ .ok ()) ∨
      (row.deployType = "local" ∧ (busyStatus row.status && request.isConfigChange) = false ∧
        validateNonEmpty "name" (request.name.getD row.name) = .ok () ∧
        validateJsonField deps "params_json" (request.paramsJson.or row.paramsJson) = .ok () ∧
        ∃ update now, update.paramsJson = request.paramsJson.or row.paramsJson ∧
          (serve (updateModelInstance deps id request) db).2
            = ((Stmt.updateLocalInstance id update now).exec db).2) ∨
      row.deployType ≠ "local" ∧ ∃ update now, (serve (updateModelInstance deps id request) db).2
        = ((Stmt.updateExternalInstance id update now).exec db).2 := by
  have hfirst : serve (updateModelInstance deps id request) db
      = serve (if busyStatus row.status && request.isConfigChange then
          throw (.conflict "Cannot modify a running instance. Stop it first.")
        else if row.deployType = "local" then
          updateLocalModelInstance deps id request (db.instanceView row)
        else updateExternalModelInstance deps id request (db.instanceView row)) db := by
    unfold updateModelInstance
    rw [serve_bind_ok (serve_modelInstance_of_some hrow), instanceView_toModelInstance]
  rw [hfirst]
  by_cases hbusy : (busyStatus row.status && request.isConfigChange) = true
  · rw [if_pos hbusy]
    refine .inl ⟨rfl, fun _ hidle => ?_⟩
    rw [hbusy] at hidle
    cases hidle
  · have hidle : (busyStatus row.status && request.isConfigChange) = false :=
      Bool.eq_false_iff.mpr hbusy
    rw [if_neg hbusy]
    by_cases hlocal : row.deployType = "local"
    · rw [if_pos hlocal]
      unfold updateLocalModelInstance
      dsimp only
      rw [instanceView_toModelInstance]
      cases hname : validateNonEmpty "name" (request.name.getD row.name) with
      | error e =>
          rw [serve_bind_error (serve_checked_error e db)]
          refine .inl ⟨rfl, fun _ _ hok => ?_⟩
          cases hok
      | ok _ =>
      rw [serve_bind_ok (serve_checked_ok _ db)]
      cases hjson : validateJsonField deps "params_json" (request.paramsJson.or row.paramsJson) with
      | error e =>
          rw [serve_bind_error (serve_checked_error e db)]
          refine .inl ⟨rfl, fun _ _ _ hok => ?_⟩
          cases hok
      | ok _ =>
          rw [serve_bind_ok (serve_checked_ok _ db), serve_bind_ok (serve_nowUnixSecs db)]
          refine .inr (.inl ⟨hlocal, hidle, rfl, rfl, row.localUpdate request, db.clock, rfl, ?_⟩)
          exact serve_of_reads (uses_modelInstance id) _
    · rw [if_neg hlocal]
      unfold updateExternalModelInstance
      dsimp only
      have hends : ∀ {h : Handler ModelInstanceView}, (∃ e, serve h db = (.error e, db)) →
          (serve h db).2 = db ∧ (row.deployType = "local" →
            (busyStatus row.status && request.isConfigChange) = false →
            validateNonEmpty "name" (request.name.getD row.name) = .ok () →
            validateJsonField deps "params_json" (request.paramsJson.or row.paramsJson) ≠ .ok ()) := by
        rintro h ⟨e, herror⟩
        exact ⟨congrArg Prod.snd herror, fun hdeploy => absurd hdeploy hlocal⟩
      rcases serve_reads_bind (uses_checked _) _ db with hfails | ⟨_, -, h⟩
      · exact .inl (hends hfails)
      rw [h]
      rcases serve_reads_bind (uses_checked _) _ db with hfails | ⟨_, -, h⟩
      · exact .inl (hends hfails)
      rw [h]
      rcases serve_reads_bind (uses_checked _) _ db with hfails | ⟨_, -, h⟩
      · exact .inl (hends hfails)
      rw [h]
      rcases serve_reads_bind (uses_checked _) _ db with hfails | ⟨_, -, h⟩
      · exact .inl (hends hfails)
      rw [h]
      rcases serve_reads_bind (uses_checked _) _ db with hfails | ⟨_, -, h⟩
      · exact .inl (hends hfails)
      rw [h]
      rcases serve_reads_bind (uses_checked _) _ db with hfails | ⟨_, -, h⟩
      · exact .inl (hends hfails)
      rw [h]
      rcases serve_reads_bind (uses_checked _) _ db with hfails | ⟨_, -, h⟩
      · exact .inl (hends hfails)
      rw [h, serve_bind_ok (serve_nowUnixSecs db)]
      exact .inr (.inr ⟨hlocal, _, db.clock, serve_of_reads (uses_modelInstance id) _⟩)

/-! ### When all local instances stay startable -/

theorem allStartable_update_iff {deps : External} {db : Db} (hall : AllStartable deps db) (id : String)
    (request : ModelInstanceUpdateRequest) :
    AllStartable deps (serve (updateModelInstance deps id request) db).2 ↔
      ∀ row text, db.modelInstances.find? id = some row → row.deployType = "local" →
        (busyStatus row.status && request.isConfigChange) = false →
        validateNonEmpty "name" (request.name.getD row.name) = .ok () →
        request.paramsJson = some text → validateJsonField deps "params_json" (some text) = .ok () →
        AcceptsParams deps (some text) := by
  cases hrow : db.modelInstances.find? id with
  | none =>
      have hsame : (serve (updateModelInstance deps id request) db).2 = db := by
        unfold updateModelInstance
        rw [serve_bind_error (serve_modelInstance_of_none hrow)]
      rw [hsame]
      refine iff_of_true hall ?_
      intro row text hsome
      cases hsome
  | some row =>
  rcases serve_updateModelInstance_cases deps hrow request with
    ⟨hsame, hrefused⟩ | ⟨hlocal, hidle, hname, hjson, update, now, hparams, hwritten⟩ |
    ⟨hexternal, update, now, hwritten⟩
  · rw [hsame]
    refine iff_of_true hall ?_
    intro row' text hrow' hlocal hidle hname htext hjson
    obtain rfl := Option.some.inj hrow'
    rw [htext, Option.some_or] at hrefused
    exact absurd hjson (hrefused hlocal hidle hname)
  · rw [hwritten]
    have hfind := find?_updateLocalInstance update now hrow
    constructor
    · intro hafter row' text hrow' _ _ _ htext _
      obtain rfl := Option.some.inj hrow'
      have hstartable := hafter _ (Table.find?_mem hfind) hlocal
      rw [htext, Option.some_or] at hparams
      rwa [← hparams]
    · intro haccepts
      refine allStartable_exec ?_ hall
      intro row' hrow' _
      obtain rfl := Option.some.inj (hrow.symm.trans hrow')
      rw [hparams]
      cases htext : request.paramsJson with
      | none => exact hall row (Table.find?_mem hrow) hlocal
      | some text =>
          rw [htext, Option.some_or] at hjson
          exact haccepts row text rfl hlocal hidle hname htext hjson
  · rw [hwritten]
    refine iff_of_true (allStartable_exec ?_ hall) ?_
    · intro row' hrow' hlocal
      obtain rfl := Option.some.inj (hrow.symm.trans hrow')
      exact absurd hlocal hexternal
    · intro row' text hrow' hlocal
      obtain rfl := Option.some.inj hrow'
      exact absurd hlocal hexternal

theorem allStartable_create {deps : External} {db : Db} (hall : AllStartable deps db)
    (request : ModelInstanceCreateRequest) (id : String) :
    AllStartable deps (serve (createModelInstance deps request id) db).2 := by
  have hperforms : (createModelInstance deps request id).run.Performs
      fun stmt => ∀ db, stmt.StoresAccepted deps db := createModelInstance_startable deps request id
  have hexec : ∀ (stmt : Stmt) db, (∀ db, stmt.StoresAccepted deps db) →
      AllStartable deps db → AllStartable deps (stmt.exec db).2 :=
    fun stmt db hstores => allStartable_exec (hstores db)
  exact hperforms.run_rel (R := fun db db' => AllStartable deps db → AllStartable deps db')
    (fun _ h => h) (fun _ _ _ h h' hall => h' (h hall)) hexec db hall

/-- No wait ends with a write of parameters. -/
theorem allStartable_finish {deps : External} {db : Db} (hall : AllStartable deps db)
    (request : PlatformRequest) : AllStartable deps (request.finish db) := by
  have hother : (∀ w ∈ request.writes, w ∉ paramsWrites) → AllStartable deps (request.finish db) :=
    fun hwrites => respected_finish request (respected_allStartable deps hwrites) db hall
  cases request with
  | createModel request id fileId taskId rounds =>
      apply hother
      simp only [PlatformRequest.writes]
      decide
  | deleteModel id trashId =>
      apply hother
      simp only [PlatformRequest.writes]
      decide
  | plain request =>
      cases request
      case createModelInstance request id => exact hall
      case updateModelInstance id request => exact hall
      all_goals
        apply hother
        simp only [PlatformRequest.writes, Request.writes]
        decide

theorem allStartable_begin_iff {deps : External} {s : Platform} (hall : AllStartable deps s.db)
    (request : PlatformRequest) :
    AllStartable deps (request.begin deps s.db).2 ↔ UpdatesParams deps s (.serve request) := by
  have hother : (∀ w ∈ request.writes, w ∉ paramsWrites) →
      AllStartable deps (request.begin deps s.db).2 :=
    fun hwrites => respected_begin deps request (respected_allStartable deps hwrites) s.db hall
  have hunasked : (∀ id update, request ≠ .plain (.updateModelInstance id update)) →
      UpdatesParams deps s (.serve request) := by
    intro hne id update row text hop
    exact absurd (PlatformOperation.serve.inj hop) (hne id update)
  cases request with
  | createModel request id fileId taskId rounds =>
      refine iff_of_true (hother ?_) (hunasked fun _ _ h => by cases h)
      simp only [PlatformRequest.writes]
      decide
  | deleteModel id trashId =>
      refine iff_of_true (hother ?_) (hunasked fun _ _ h => by cases h)
      simp only [PlatformRequest.writes]
      decide
  | plain request =>
      cases request
      case createModelInstance request id =>
          refine iff_of_true ?_ (hunasked fun _ _ h => by cases h)
          rw [db_begin_plain]
          change AllStartable deps
            (serve (ended (answered (createModelInstance deps request id))) s.db).2
          rw [serve_ended_answered]
          exact allStartable_create hall request id
      case updateModelInstance id request =>
          rw [db_begin_plain]
          change AllStartable deps
            (serve (ended (answered (updateModelInstance deps id request))) s.db).2 ↔ _
          rw [serve_ended_answered, allStartable_update_iff hall]
          constructor
          · intro h id' request' row text hop
            obtain ⟨rfl, rfl⟩ := Request.updateModelInstance.inj
              (PlatformRequest.plain.inj (PlatformOperation.serve.inj hop))
            exact h row text
          · intro h row text
            exact h id request row text rfl
      all_goals
        refine iff_of_true (hother ?_) (hunasked fun _ _ h => by cases h)
        simp only [PlatformRequest.writes, Request.writes]
        decide

theorem allStartable_perform_iff {deps : External} {s : Platform} (hall : AllStartable deps s.db)
    (op : PlatformOperation) :
    AllStartable deps (op.perform deps s).db ↔ UpdatesParams deps s op := by
  cases op with
  | serve request => exact allStartable_begin_iff hall request
  | resume index =>
      refine iff_of_true ?_ fun _ _ _ _ hop => by cases hop
      simp only [PlatformOperation.perform]
      split
      · exact hall
      · exact allStartable_finish hall _
  | act action =>
      refine iff_of_true ?_ fun _ _ _ _ hop => by cases hop
      cases action <;> exact hall

/-- In a run that starts without instances every local instance can be started as far as its parameters go,
exactly if the updates set accepted parameters only. -/
theorem always_startable_iff (deps : External) (db : Db) (ops : List PlatformOperation) :
    Trace.Always (fun s op => PlatformOperation.perform deps s op) (fun s => AllStartable deps s.db)
        { db := { db with modelInstances := .empty } } ops ↔
      Trace.Along (fun s op => PlatformOperation.perform deps s op) (UpdatesParams deps)
        { db := { db with modelInstances := .empty } } ops := by
  have hstep : ∀ (s : Platform) op, True → AllStartable deps s.db →
      (AllStartable deps (op.perform deps s).db ↔ UpdatesParams deps s op) :=
    fun s op _ hall => allStartable_perform_iff hall op
  refine Trace.always_iff_along (fun _ _ _ => trivial) hstep trivial ?_
  intro row hmem
  cases hmem

/-! ### An update with JSON that is no object -/

/-- Of all texts only a list is parsed. -/
def listOnly : External where
  jsonFromStr text := if text = "[1]" then some (.arr [.int 1]) else none
  jsonToString _ := "[1]"
  urlParse _ := none

def createThenUpdate : List PlatformOperation :=
  [.serve (.plain (.createModelInstance
      { name := "chat", deployType := some "local", nodeId := some "n"
        runtimeEnvironmentId := some "r", modelFileId := some "f" } "i")),
    .serve (.plain (.updateModelInstance "i" { paramsJson := some "[1]" }))]

theorem unparsed_params_stored :
    ¬ Trace.Always (fun s op => PlatformOperation.perform listOnly s op)
      (fun s => AllStartable listOnly s.db)
      { db := { readyDb with modelInstances := .empty } } createThenUpdate := by
  intro hall
  have hlast := hall createThenUpdate [] (List.append_nil _).symm
  have hstored : ((Trace.run (fun s op => PlatformOperation.perform listOnly s op)
      { db := { readyDb with modelInstances := .empty } } createThenUpdate).db.modelInstances.rows.map
        fun row => (row.deployType, row.paramsJson)) = [("local", some "[1]")] := by rfl
  obtain ⟨row, hrow, hcolumns⟩ := List.mem_map.mp (hstored ▸ List.mem_cons_self)
  obtain ⟨hlocal, hparams⟩ := Prod.mk.inj hcolumns
  obtain ⟨params, hparsed⟩ := hlast row hrow hlocal
  rw [hparams] at hparsed
  have hrefused : parseInstanceParams listOnly (some "[1]")
      = .error (.badRequest "runtime params must be a JSON object") := by rfl
  rw [hrefused] at hparsed
  cases hparsed

end LightAI.Server
