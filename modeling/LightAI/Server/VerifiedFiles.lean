import LightAI.Server.FileRows
import LightAI.Server.FileUpdates

/-!
# Has a verified file been found where it is?

A verification looks for the path that its task was sent with, on the node that the task is for, while its
result is written into the row that the payload names, wherever that row points by then. A row gets its
place only together with the outcome of a verification of that place, though, so that every stored file has
been found once where it is. `Reports` is an auxiliary variable: the places that agents have reported as
verified.
-/

namespace LightAI.Server

/-- A path on a node. -/
structure FilePlace where
  nodeId : String
  path : String
  deriving DecidableEq

def ModelFile.place (file : ModelFile) : FilePlace := { nodeId := file.nodeId, path := file.path }

def ModelFileRequest.place (request : ModelFileRequest) : FilePlace :=
  { nodeId := request.nodeId, path := request.path }

/-- Where a task looks for a file, if it verifies one. -/
def AgentTask.verifiedPlace (task : AgentTask) : Option FilePlace :=
  if task.kind = .verifyModelFile then
    (task.payloadJson.getStr "path").map fun path => { nodeId := task.nodeId, path }
  else none

/-- The place that a recorded result reports as verified. -/
def reportedPlace (db : Db) (taskId : String) (request : AgentTaskResultRequest) : Option FilePlace :=
  match recordedResult db taskId request with
  | some (task, .succeeded) =>
      if (request.result.getStr "file_status").getD "verified" = "verified" then task.verifiedPlace
      else none
  | _ => none

abbrev Reports := List FilePlace

def recordReports (s : Platform) (op : PlatformOperation) (reports : Reports) : Reports :=
  match op with
  | .serve (.plain (.recordAgentTaskResult taskId request)) =>
      (reportedPlace s.db taskId request).toList ++ reports
  | _ => reports

/-- One operation of the platform together with what it adds to the reports. -/
def reportStep (deps : External) : Platform × Reports → PlatformOperation → Platform × Reports :=
  Trace.withHistory (fun s op => op.perform deps s) recordReports

/-- Every file that is verified has been reported as verified at the place where it is. -/
def VerifiedReported (p : Platform × Reports) : Prop :=
  ∀ file ∈ p.1.db.modelFiles.rows, file.status = "verified" → file.place ∈ p.2

/-! ### What an agent finds -/

/-- The agent has found the file. -/
def AgentTask.FoundFile (task : AgentTask) : Prop :=
  task.status = .succeeded ∧
    ((task.resultJson.getD (.obj [])).getStr "file_status").getD "verified" = "verified"

theorem foundFile_of_verifiedFile {task : AgentTask} {now : Int} {verified : VerifiedModelFile}
    (h : task.verifiedFile now = some verified) : task.FoundFile := by
  unfold AgentTask.verifiedFile at h
  dsimp only at h
  split at h
  · assumption
  · cases h

theorem not_foundFile_of_live {task : AgentTask} (hlive : task.status.isLive = true) :
    ¬ task.FoundFile := by
  rintro ⟨hstatus, -⟩
  rw [hstatus] at hlive
  cases hlive

theorem verifiedPlace_onTask (stmt : Stmt) (task : AgentTask) :
    (stmt.onTask task).verifiedPlace = task.verifiedPlace := by
  unfold AgentTask.verifiedPlace
  rw [onTask_kind, onTask_payloadJson, onTask_nodeId]

/-- A task is found to be in order by the statement that records its result, and by no other. -/
theorem foundFile_onTask {stmt : Stmt} {task : AgentTask} (h : (stmt.onTask task).FoundFile) :
    task.FoundFile ∨ ∃ selected result now, stmt = .recordResult selected .succeeded result now ∧
      task.id = selected.id ∧ (result.getStr "file_status").getD "verified" = "verified" := by
  cases stmt with
  | claimAgentTask selected now leaseUntil =>
      simp only [Stmt.onTask] at h
      split at h
      · exact absurd h (not_foundFile_of_live rfl)
      · exact .inl h
  | markTaskTimedOut taskId now =>
      simp only [Stmt.onTask] at h
      split at h
      · cases h.1
      · exact .inl h
  | recordResult selected status result now =>
      simp only [Stmt.onTask] at h
      split at h
      · rename_i hthis
        cases status with
        | succeeded => exact .inr ⟨selected, result, now, rfl, hthis.1, h.2⟩
        | failed => cases h.1
      · exact .inl h
  | _ => exact .inl h

/-! ### The invariant -/

/-- The verification that a waiting request waits for: its task, and where the file should be. -/
def PlatformRequest.verification : PlatformRequest → Option (String × FilePlace)
  | plain (.createModelFile _ request _ taskId _) => some (taskId, request.place)
  | plain (.updateModelFile _ request taskId _) => some (taskId, request.place)
  | createModel request _ _ taskId _ =>
      request.initialFile.map fun initialFile => (taskId, initialFile.place)
  | _ => none

/-- The task looks at this place, and if it has found the file there, that has been reported. -/
def Awaited (reports : Reports) (db : Db) (taskId : String) (place : FilePlace) : Prop :=
  ∃ task, db.agentTasks.find? taskId = some task ∧ task.verifiedPlace = some place ∧
    (task.FoundFile → place ∈ reports)

/-- Every file has been reported where it is, and every request that waits will write a place only if it
has been reported. -/
structure PlacesReported (s : Platform) (reports : Reports) : Prop where
  files : ∀ file ∈ s.db.modelFiles.rows, file.place ∈ reports
  waiting : ∀ request ∈ s.waiting, ∀ taskId place, request.verification = some (taskId, place) →
    Awaited reports s.db taskId place

/-! ### The tasks -/

/-- The tasks go on looking where they do, and no task finds its file. -/
def FindsNothing (db db' : Db) : Prop :=
  ∀ id task, db.agentTasks.find? id = some task → ∃ task', db'.agentTasks.find? id = some task' ∧
    task'.verifiedPlace = task.verifiedPlace ∧ (task'.FoundFile → task.FoundFile)

theorem respected_findsNothing {writes : List Write} (hrecord : .recordResult ∉ writes) :
    Respected FindsNothing writes where
  refl _ _ task htask := ⟨task, htask, rfl, id⟩
  trans db db' db'' h h' id task htask := by
    obtain ⟨task', htask', hplace, hfound⟩ := h id task htask
    obtain ⟨task'', htask'', hplace', hfound'⟩ := h' id task' htask'
    exact ⟨task'', htask'', hplace'.trans hplace, hfound ∘ hfound'⟩
  exec stmt db hamong id task htask := by
    refine ⟨stmt.onTask task, find?_exec_of_some stmt htask, verifiedPlace_onTask stmt task, ?_⟩
    intro hfound
    rcases foundFile_onTask hfound with hbefore | ⟨selected, result, now, rfl, -, -⟩
    · exact hbefore
    · exact absurd (hamong _ rfl) hrecord
  models _ _ _ task htask := ⟨task, htask, rfl, id⟩

theorem Awaited.kept {reports : Reports} {db db' : Db} {taskId : String} {place : FilePlace}
    (h : Awaited reports db taskId place) (hkept : FindsNothing db db') :
    Awaited reports db' taskId place := by
  obtain ⟨task, htask, hplace, hreported⟩ := h
  obtain ⟨task', htask', hplace', hfound⟩ := hkept taskId task htask
  exact ⟨task', htask', hplace'.trans hplace, hreported ∘ hfound⟩

/-- A result that finds its file is reported for the place where its task has looked. -/
theorem Awaited.recorded {reports : Reports} {db : Db} {taskId : String} {place : FilePlace}
    (h : Awaited reports db taskId place) (resultId : String) (request : AgentTaskResultRequest) :
    Awaited ((reportedPlace db resultId request).toList ++ reports)
      (serve (recordAgentTaskResult resultId request) db).2 taskId place := by
  obtain ⟨task, htask, hplace, hreported⟩ := h
  have hold : task.FoundFile → place ∈ (reportedPlace db resultId request).toList ++ reports :=
    fun hfound => List.mem_append_right _ (hreported hfound)
  rw [serve_recordAgentTaskResult]
  cases hrecorded : recordedResult db resultId request with
  | none => exact ⟨task, htask, hplace, hold⟩
  | some recorded =>
      obtain ⟨selected, status⟩ := recorded
      have hselected := recordedResult_task hrecorded
      let stmt : Stmt := .recordResult selected status request.result db.clock
      refine ⟨stmt.onTask task, find?_exec_of_some stmt htask,
        (verifiedPlace_onTask stmt task).trans hplace, fun hfound => ?_⟩
      rcases foundFile_onTask hfound with hbefore | ⟨selected', result, now, hstmt, hid, hverified⟩
      · exact hold hbefore
      · obtain ⟨rfl, rfl, rfl, -⟩ := Stmt.recordResult.inj hstmt
        have htaskId : taskId = resultId := by
          rw [← Table.find?_key htask, hid, Table.find?_key hselected]
        subst htaskId
        obtain rfl := Option.some.inj (htask.symm.trans hselected)
        apply List.mem_append_left
        unfold reportedPlace
        rw [hrecorded]
        simp only [hverified, if_true, hplace, Option.toList_some, List.mem_singleton]

/-! ### The files -/

/-- Every file is where some file was. -/
def FilesInPlace (db db' : Db) : Prop :=
  ∀ file' ∈ db'.modelFiles.rows, ∃ file ∈ db.modelFiles.rows, file'.place = file.place

/-- The kinds of writes that give a file its place. -/
def settingWrites : List Write := [.insertModelFile, .updateModelFile]

theorem respected_filesInPlace {writes : List Write} (hother : ∀ w ∈ writes, w ∉ settingWrites) :
    Respected FilesInPlace writes where
  refl _ file' hmem := ⟨file', hmem, rfl⟩
  trans _ _ _ h h' file' hmem := by
    obtain ⟨file, hfile, hplace⟩ := h' file' hmem
    obtain ⟨before, hbefore, hplace'⟩ := h file hfile
    exact ⟨before, hbefore, hplace.trans hplace'⟩
  exec stmt db hamong file' hmem := by
    rcases find?_file_exec (Table.find?_of_mem hmem) with rfl | ⟨file, hfind, hrewritten⟩
    · exact absurd (by decide) (hother _ (hamong _ rfl))
    · refine ⟨file, Table.find?_mem hfind, ?_⟩
      rcases hrewritten.moves with ⟨hnode, hpath⟩ | ⟨verified, now, rfl⟩
      · unfold ModelFile.place
        rw [hnode, hpath]
      · exact absurd (by decide) (hother _ (hamong _ rfl))
  models _ _ file' hmem := ⟨file', hmem, rfl⟩

/-- Every file has been reported where it is. -/
def FilesReported (reports : Reports) (db : Db) : Prop :=
  ∀ file ∈ db.modelFiles.rows, file.place ∈ reports

theorem FilesReported.kept {reports : Reports} {db db' : Db} (h : FilesReported reports db)
    (hkept : FilesInPlace db db') : FilesReported reports db' := by
  intro file' hmem
  obtain ⟨file, hfile, hplace⟩ := hkept file' hmem
  rw [hplace]
  exact h file hfile

theorem FilesReported.insertModelFile {reports : Reports} {db : Db} (h : FilesReported reports db)
    {file : ModelFile} (hfile : file.place ∈ reports) :
    FilesReported reports ((Stmt.insertModelFile file).exec db).2 := by
  intro file' hmem
  rcases find?_file_exec (Table.find?_of_mem hmem) with heq | ⟨before, hfind, hrewritten⟩
  · rwa [← Stmt.insertModelFile.inj heq]
  · have hsame : file' = before := by
      cases hrewritten
      rfl
    rw [hsame]
    exact h before (Table.find?_mem hfind)

theorem FilesReported.updateModelFile {reports : Reports} {db : Db} (h : FilesReported reports db)
    {nodeId path : String} (hplace : { nodeId, path } ∈ reports) (id : String)
    (verified : VerifiedModelFile) (now : Int) :
    FilesReported reports ((Stmt.updateModelFile id nodeId path verified now).exec db).2 := by
  intro file' hmem
  rcases find?_file_exec (Table.find?_of_mem hmem) with heq | ⟨before, hfind, hrewritten⟩
  · cases heq
  · rcases hrewritten.moves with ⟨hnode, hpath⟩ | ⟨verified', now', heq⟩
    · have hsame : file'.place = before.place := by
        unfold ModelFile.place
        rw [hnode, hpath]
      rw [hsame]
      exact h before (Table.find?_mem hfind)
    · obtain ⟨-, hnode, hpath, -, -⟩ := Stmt.updateModelFile.inj heq
      unfold ModelFile.place
      rwa [← hnode, ← hpath]

theorem FilesReported.createModelRows {reports : Reports} {db : Db} (h : FilesReported reports db)
    (model : Model) {file : ModelFile} (hfile : file.place ∈ reports) :
    FilesReported reports (createModelRows model file db) := by
  unfold Server.createModelRows
  split
  · exact h
  · rename_i models _
    dsimp only
    split
    · have hmodels : FilesReported reports { db with models } := h
      exact hmodels.insertModelFile hfile
    · exact h

/-! ### Requests that wait -/

theorem verifiedPlace_payload (task : AgentTask) {nodeId path : String}
    (hkind : task.kind = .verifyModelFile) (hnode : task.nodeId = nodeId)
    (hpayload : task.payloadJson = .obj [("path", .str path)]) :
    task.verifiedPlace = some { nodeId, path } := by
  unfold AgentTask.verifiedPlace
  rw [if_pos hkind, hpayload, hnode]
  rfl

theorem awaited_enqueueVerification {nodeId path taskId : String} {db db' : Db} (reports : Reports)
    (h : serve (enqueueVerification nodeId path taskId) db = (.ok (), db')) :
    Awaited reports db' taskId { nodeId, path } := by
  unfold enqueueVerification at h
  obtain ⟨online, db₁, -, h⟩ := serve_bind_eq_ok h
  obtain ⟨_, db₂, -, h⟩ := serve_bind_eq_ok h
  obtain ⟨now, db₃, -, h⟩ := serve_bind_eq_ok h
  let task : NewAgentTask :=
    { id := taskId, nodeId, kind := .verifyModelFile, payloadJson := .obj [("path", .str path)], now }
  have hserve : serve (inserted ((Stmt.insertAgentTask task).exec db₃).1)
      ((Stmt.insertAgentTask task).exec db₃).2 = (.ok (), db') :=
    (serve_bind_ok (serve_execute (.insertAgentTask task) db₃) _).symm.trans h
  have hdb' : ((Stmt.insertAgentTask task).exec db₃).2 = db' :=
    (serve_of_reads (uses_inserted _) _).symm.trans (congrArg Prod.snd hserve)
  cases haccepted : ((Stmt.insertAgentTask task).exec db₃).1 with
  | false =>
      rw [haccepted] at hserve
      cases congrArg Prod.fst hserve
  | true =>
      have hstored := @insertTask_stored _ task id (fun _ => rfl) haccepted
      refine ⟨task.row, ?_, verifiedPlace_payload _ rfl rfl rfl, ?_⟩
      · rw [← hdb']
        exact hstored
      · exact fun hfound => absurd hfound (not_foundFile_of_live rfl)

theorem awaited_beginFileCreation {modelId taskId : String} {request : ModelFileRequest} {db db' : Db}
    (reports : Reports) (h : serve (beginFileCreation modelId request taskId) db = (.ok (), db')) :
    Awaited reports db' taskId request.place := by
  unfold beginFileCreation at h
  obtain ⟨_, db₁, -, h⟩ := serve_bind_eq_ok h
  obtain ⟨_, db₂, -, h⟩ := serve_bind_eq_ok h
  obtain ⟨_, db₃, -, h⟩ := serve_bind_eq_ok h
  obtain ⟨_, db₄, -, h⟩ := serve_bind_eq_ok h
  exact awaited_enqueueVerification reports h

theorem awaited_beginFileUpdate {taskId : String} {request : ModelFileRequest} {db db' : Db}
    (reports : Reports) (h : serve (beginFileUpdate request taskId) db = (.ok (), db')) :
    Awaited reports db' taskId request.place := by
  unfold beginFileUpdate at h
  obtain ⟨_, db₁, -, h⟩ := serve_bind_eq_ok h
  obtain ⟨_, db₂, -, h⟩ := serve_bind_eq_ok h
  obtain ⟨_, db₃, -, h⟩ := serve_bind_eq_ok h
  exact awaited_enqueueVerification reports h

theorem serve_initialModelFile_ok {deps : External} {request : ModelRequest}
    {initialFile : ModelFileRequest} {db db' : Db}
    (h : serve (initialModelFile deps request) db = (.ok initialFile, db')) :
    request.initialFile = some initialFile := by
  unfold initialModelFile at h
  obtain ⟨_, db₁, -, h⟩ := serve_bind_eq_ok h
  obtain ⟨given, db₂, hgiven, h⟩ := serve_bind_eq_ok h
  obtain ⟨_, db₃, -, h⟩ := serve_bind_eq_ok h
  obtain ⟨_, db₄, -, h⟩ := serve_bind_eq_ok h
  obtain ⟨_, db₅, -, h⟩ := serve_bind_eq_ok h
  rw [← Except.ok.inj (congrArg Prod.fst h)]
  exact serve_required_ok hgiven

theorem awaited_beginModelCreation {deps : External} {taskId : String} {request : ModelRequest}
    {db db' : Db} (reports : Reports)
    (h : serve (beginModelCreation deps request taskId) db = (.ok (), db')) :
    ∃ initialFile, request.initialFile = some initialFile ∧
      Awaited reports db' taskId initialFile.place := by
  obtain ⟨initialFile, db₁, hinitial, h⟩ := serve_bind_eq_ok h
  exact ⟨initialFile, serve_initialModelFile_ok hinitial, awaited_enqueueVerification reports h⟩

/-- A request that waits from now on has enqueued the verification that it waits for. -/
theorem awaited_begin {deps : External} {request : PlatformRequest} {db : Db} {taskId : String}
    {place : FilePlace} (reports : Reports) (hwaits : (request.begin deps db).1 = true)
    (hverification : request.verification = some (taskId, place)) :
    Awaited reports (request.begin deps db).2 taskId place := by
  cases request with
  | deleteModel id trashId => cases hverification
  | createModel request id fileId taskId' rounds =>
      obtain ⟨initialFile, hinitial, hpair⟩ := Option.map_eq_some_iff.mp hverification
      obtain ⟨rfl, rfl⟩ := Prod.mk.inj hpair
      simp only [PlatformRequest.begin] at hwaits ⊢
      cases hserve : serve (beginModelCreation deps request taskId') db with
      | mk outcome db' =>
          rw [hserve] at hwaits
          cases outcome with
          | error e => cases hwaits
          | ok u =>
              obtain ⟨initialFile', hinitial', hawaited⟩ := awaited_beginModelCreation reports hserve
              obtain rfl := Option.some.inj (hinitial.symm.trans hinitial')
              exact hawaited
  | plain request =>
      have hserve := begin_plain_eq_true hwaits
      cases request
      case createModelFile modelId request id taskId' rounds =>
          obtain ⟨rfl, rfl⟩ := Prod.mk.inj (Option.some.inj hverification)
          exact awaited_beginFileCreation reports (serve_waits_none hserve)
      case updateModelFile id request taskId' rounds =>
          obtain ⟨rfl, rfl⟩ := Prod.mk.inj (Option.some.inj hverification)
          exact awaited_beginFileUpdate reports (serve_waits_none hserve)
      all_goals cases hverification

/-! ### The end of a wait -/

section Finish

variable {reports : Reports} {db : Db} {taskId : String} {place : FilePlace}

/-- A wait that ends with a verified file ends with a reported place. -/
theorem reported_of_verified (h : Awaited reports db taskId place) {verified : VerifiedModelFile}
    (hverified : (db.agentTasks.find? taskId).bind (·.verifiedFile db.clock) = some verified) :
    place ∈ reports := by
  obtain ⟨task, htask, -, hreported⟩ := h
  rw [htask, Option.bind_some] at hverified
  exact hreported (foundFile_of_verifiedFile hverified)

/-- What only reads files after its write leaves them where the write has put them. -/
theorem FilesReported.after_execute {α : Type} {stmt : Stmt} {f : stmt.Answer → Handler α}
    (hrest : ∀ answer, Uses fileReadWrites (f answer))
    (h : FilesReported reports (stmt.exec db).2) :
    FilesReported reports (serve (execute stmt >>= f) db).2 := by
  have hother : ∀ w ∈ fileReadWrites, w ∉ settingWrites := by decide
  exact h.kept ((respected_filesInPlace hother).after_execute hrest db)

theorem FilesReported.finishFileCreation (h : FilesReported reports db) {request : ModelFileRequest}
    (hawaited : Awaited reports db taskId request.place) (modelId id : String) (rounds : Nat) :
    FilesReported reports (serve (finishFileCreation modelId request id taskId rounds) db).2 := by
  unfold Server.finishFileCreation
  rcases serve_waitForVerification taskId rounds db with
    ⟨verified, hverified, hwait⟩ | ⟨-, e, db', hwait, hfiles⟩
  · rw [serve_bind_ok hwait, serve_bind_ok (serve_nowUnixSecs db)]
    refine FilesReported.after_execute (fun accepted => ?_) (h.insertModelFile ?_)
    · exact uses_bind (uses_inserted accepted) fun _ => uses_modelFile (by decide) id
    · exact reported_of_verified hawaited hverified
  · rw [serve_bind_error hwait]
    unfold FilesReported
    rwa [hfiles]

theorem FilesReported.finishFileUpdate (h : FilesReported reports db) {request : ModelFileRequest}
    (hawaited : Awaited reports db taskId request.place) (id : String) (rounds : Nat) :
    FilesReported reports (serve (finishFileUpdate id request taskId rounds) db).2 := by
  unfold Server.finishFileUpdate
  rcases serve_waitForVerification taskId rounds db with
    ⟨verified, hverified, hwait⟩ | ⟨-, e, db', hwait, hfiles⟩
  · rw [serve_bind_ok hwait, serve_bind_ok (serve_nowUnixSecs db)]
    refine FilesReported.after_execute (fun found => ?_) (h.updateModelFile ?_ id verified db.clock)
    · cases (show Bool from found) with
      | true => exact uses_modelFile (by decide) id
      | false => exact uses_throw _
    · exact reported_of_verified hawaited hverified
  · rw [serve_bind_error hwait]
    unfold FilesReported
    rwa [hfiles]

theorem FilesReported.finishModelCreation (h : FilesReported reports db) {request : ModelRequest}
    (hawaited : ∀ initialFile, request.initialFile = some initialFile →
      Awaited reports db taskId initialFile.place) (id fileId : String) (rounds : Nat) :
    FilesReported reports ((PlatformRequest.createModel request id fileId taskId rounds).finish db) := by
  simp only [PlatformRequest.finish]
  rcases serve_waitForVerification taskId rounds db with
    ⟨verified, hverified, hwait⟩ | ⟨-, e, db', hwait, hfiles⟩
  · rw [hwait]
    cases hinitial : request.initialFile with
    | none => exact h
    | some initialFile =>
        apply h.createModelRows
        exact reported_of_verified (hawaited initialFile hinitial) hverified
  · rw [hwait]
    unfold FilesReported
    rwa [hfiles]

theorem FilesReported.finish (h : FilesReported reports db) (request : PlatformRequest)
    (hawaited : ∀ taskId place, request.verification = some (taskId, place) →
      Awaited reports db taskId place) : FilesReported reports (request.finish db) := by
  have hother : (∀ w ∈ request.writes, w ∉ settingWrites) →
      FilesReported reports (request.finish db) :=
    fun hwrites => h.kept (respected_finish request (respected_filesInPlace hwrites) db)
  cases request with
  | deleteModel id trashId => exact h
  | createModel request id fileId taskId rounds =>
      apply h.finishModelCreation
      intro initialFile hinitial
      apply hawaited
      simp only [PlatformRequest.verification, hinitial, Option.map_some]
  | plain request =>
      cases request
      case createModelFile modelId request id taskId rounds =>
          change FilesReported reports
            (serve (answered (Server.finishFileCreation modelId request id taskId rounds)) db).2
          rw [answered, serve_then_pure]
          exact h.finishFileCreation (hawaited _ _ rfl) modelId id rounds
      case updateModelFile id request taskId rounds =>
          change FilesReported reports
            (serve (answered (Server.finishFileUpdate id request taskId rounds)) db).2
          rw [answered, serve_then_pure]
          exact h.finishFileUpdate (hawaited _ _ rfl) id rounds
      all_goals
        apply hother
        simp only [PlatformRequest.writes, Request.writes]
        decide

/-- Until it waits, a request gives no file its place. -/
theorem FilesReported.begin (h : FilesReported reports db) (deps : External)
    (request : PlatformRequest) : FilesReported reports (request.begin deps db).2 := by
  have hother : (∀ w ∈ request.writes, w ∉ settingWrites) →
      FilesReported reports (request.begin deps db).2 :=
    fun hwrites => h.kept (respected_begin deps request (respected_filesInPlace hwrites) db)
  have htask : Respected FilesInPlace plainTaskWrites := respected_filesInPlace (by decide)
  cases request with
  | createModel request id fileId taskId rounds =>
      have huses : Uses plainTaskWrites (beginModelCreation deps request taskId) :=
        uses_bind (uses_initialModelFile deps request) fun initialFile =>
          uses_enqueueVerification (fun _ hw => hw) _ _ _
      have hkept := h.kept (huses.respects htask db)
      simp only [PlatformRequest.begin]
      split <;> rename_i hserve <;> rw [hserve] at hkept <;> exact hkept
  | deleteModel id trashId =>
      apply hother
      simp only [PlatformRequest.writes]
      decide
  | plain request =>
      cases request
      case createModelFile modelId request id taskId rounds =>
          rw [db_begin_plain]
          have huses : Uses plainTaskWrites (waits (beginFileCreation modelId request taskId)) := by
            refine uses_bind ?_ fun _ => uses_pure _
            refine uses_bind (uses_checked _) fun _ => uses_bind (uses_checked _) fun _ => ?_
            refine uses_bind (uses_ensureModelExists _) fun _ => ?_
            refine uses_bind (uses_ensureNodeExists _) fun _ => ?_
            exact uses_enqueueVerification (fun _ hw => hw) _ _ _
          exact h.kept (huses.respects htask db)
      case updateModelFile id request taskId rounds =>
          rw [db_begin_plain]
          have huses : Uses [.insertAgentTask] (waits (beginFileUpdate request taskId)) :=
            uses_bind (uses_beginFileUpdate request taskId) fun _ => uses_pure _
          exact h.kept (huses.respects (respected_filesInPlace (by decide)) db)
      all_goals
        apply hother
        simp only [PlatformRequest.writes, Request.writes]
        decide

end Finish

/-! ### Runs -/

theorem begin_findsNothing (deps : External) (request : PlatformRequest) (db : Db)
    (hrecord : ∀ taskId result, request ≠ .plain (.recordAgentTaskResult taskId result)) :
    FindsNothing db (request.begin deps db).2 := by
  have hrespected : .recordResult ∉ request.writes → FindsNothing db (request.begin deps db).2 :=
    fun hwrites => respected_begin deps request (respected_findsNothing hwrites) db
  cases request with
  | createModel request id fileId taskId rounds =>
      apply hrespected
      simp only [PlatformRequest.writes]
      decide
  | deleteModel id trashId =>
      apply hrespected
      simp only [PlatformRequest.writes]
      decide
  | plain request =>
      cases request
      case recordAgentTaskResult taskId result => exact absurd rfl (hrecord taskId result)
      all_goals
        apply hrespected
        simp only [PlatformRequest.writes, Request.writes]
        decide

theorem finish_findsNothing (request : PlatformRequest) (db : Db) :
    FindsNothing db (request.finish db) := by
  have hrespected : .recordResult ∉ request.writes → FindsNothing db (request.finish db) :=
    fun hwrites => respected_finish request (respected_findsNothing hwrites) db
  cases request with
  | createModel request id fileId taskId rounds =>
      apply hrespected
      simp only [PlatformRequest.writes]
      decide
  | deleteModel id trashId => exact fun _ task htask => ⟨task, htask, rfl, fun hfound => hfound⟩
  | plain request =>
      cases request
      case recordAgentTaskResult taskId result =>
          exact fun _ task htask => ⟨task, htask, rfl, fun hfound => hfound⟩
      all_goals
        apply hrespected
        simp only [PlatformRequest.writes, Request.writes]
        decide

theorem recordReports_of_ne {s : Platform} {request : PlatformRequest} (reports : Reports)
    (hrecord : ∀ taskId result, request ≠ .plain (.recordAgentTaskResult taskId result)) :
    recordReports s (.serve request) reports = reports := by
  cases request with
  | createModel request id fileId taskId rounds => rfl
  | deleteModel id trashId => rfl
  | plain request =>
      cases request
      case recordAgentTaskResult taskId result => exact absurd rfl (hrecord taskId result)
      all_goals rfl

theorem placesReported_serve (deps : External) {s : Platform} {reports : Reports}
    (h : PlacesReported s reports) (request : PlatformRequest) :
    PlacesReported ((PlatformOperation.serve request).perform deps s)
      (recordReports s (.serve request) reports) := by
  by_cases hrecord : ∃ taskId result, request = .plain (.recordAgentTaskResult taskId result)
  · obtain ⟨taskId, result, rfl⟩ := hrecord
    have hdb : ((PlatformRequest.plain (.recordAgentTaskResult taskId result)).begin deps s.db).2
        = (serve (recordAgentTaskResult taskId result) s.db).2 :=
      (db_begin_plain deps _ s.db).trans (serve_ended_answered _ s.db)
    have hended : ((PlatformRequest.plain (.recordAgentTaskResult taskId result)).begin deps s.db).1
        ≠ true := by
      intro hwaits
      obtain ⟨response, db', -, hend⟩ := serve_bind_eq_ok (begin_plain_eq_true hwaits)
      cases Except.ok.inj (congrArg Prod.fst hend)
    constructor
    · intro file hmem
      exact List.mem_append_right _ (FilesReported.begin h.files deps _ file hmem)
    · intro waiting hmem taskId' place hverification
      dsimp only [PlatformOperation.perform] at hmem ⊢
      rw [if_neg hended] at hmem
      rw [hdb]
      exact (h.waiting waiting hmem taskId' place hverification).recorded taskId result
  · have hne : ∀ taskId result, request ≠ .plain (.recordAgentTaskResult taskId result) :=
      fun taskId result heq => hrecord ⟨taskId, result, heq⟩
    rw [recordReports_of_ne reports hne]
    constructor
    · exact FilesReported.begin h.files deps request
    · intro waiting hmem taskId place hverification
      have hkept : waiting ∈ s.waiting → Awaited reports (request.begin deps s.db).2 taskId place :=
        fun hold => (h.waiting waiting hold taskId place hverification).kept
          (begin_findsNothing deps request s.db hne)
      dsimp only [PlatformOperation.perform] at hmem ⊢
      by_cases hwaits : (request.begin deps s.db).1 = true
      · rw [if_pos hwaits] at hmem
        rcases List.mem_cons.mp hmem with rfl | hold
        · exact awaited_begin reports hwaits hverification
        · exact hkept hold
      · rw [if_neg hwaits] at hmem
        exact hkept hmem

theorem placesReported_perform (deps : External) (s : Platform) (reports : Reports)
    (op : PlatformOperation) (h : PlacesReported s reports) :
    PlacesReported (op.perform deps s) (recordReports s op reports) := by
  cases op with
  | serve request => exact placesReported_serve deps h request
  | resume index =>
      dsimp only [PlatformOperation.perform, recordReports]
      cases hget : s.waiting[index]? with
      | none => exact h
      | some request =>
          have hwaiting := h.waiting request (List.mem_of_getElem? hget)
          constructor
          · exact FilesReported.finish h.files request hwaiting
          · intro other hmem taskId place hverification
            have hold := h.waiting other (List.mem_of_mem_eraseIdx hmem) taskId place hverification
            exact hold.kept (finish_findsNothing request s.db)
  | act action =>
      constructor
      · cases action <;> exact h.files
      · intro request hmem taskId place hverification
        obtain ⟨task, htask, hplace⟩ := h.waiting request hmem taskId place hverification
        exact ⟨task, by rw [PlatformOperation.perform, act_agentTasks, htask], hplace⟩

/-- The platform before any file has been stored. -/
def withoutFiles (db : Db) : Platform × Reports :=
  ({ db := { db with modelFiles := .empty } }, [])

/-- In every state of every run, whatever tasks there were before it, a file that is verified has been
reported as verified by a task that was sent with its path to its node. -/
theorem verified_files_reported (deps : External) (db : Db) (ops : List PlatformOperation) :
    Trace.Always (reportStep deps) VerifiedReported (withoutFiles db) ops := by
  have hstep : ∀ (p : Platform × Reports) (op : PlatformOperation),
      PlacesReported p.1 p.2 → True →
        PlacesReported (reportStep deps p op).1 (reportStep deps p op).2 :=
    fun p op h _ => placesReported_perform deps p.1 p.2 op h
  have hverified : ∀ p : Platform × Reports, PlacesReported p.1 p.2 → VerifiedReported p :=
    fun p h file hmem _ => h.files file hmem
  have hinit : PlacesReported (withoutFiles db).1 (withoutFiles db).2 :=
    { files := fun file hmem => absurd hmem List.not_mem_nil
      waiting := fun request hmem => absurd hmem List.not_mem_nil }
  exact Trace.always_of_invariant hstep hverified hinit
    (Trace.along_of_forall (fun _ _ => trivial) _ ops)

end LightAI.Server
