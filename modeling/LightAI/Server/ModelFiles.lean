import LightAI.Server.AgentTasks

/-!
# Model files
-/

namespace LightAI.Server

structure ModelFileRequest where
  nodeId : String
  path : String

structure ModelFileView extends ModelFile where
  modelName : Option String
  nodeName : Option String
  nodeStatus : String
  verifyTaskStatus : Option TaskStatus

/-- A row of `model_files` joined with its model, its node and its verification task. -/
structure JoinedModelFile where
  file : ModelFile
  modelName : Option String
  nodeName : Option String
  lastHeartbeatAt : Option Int
  verifyTaskStatus : Option TaskStatus

def joinModelFile (db : Db) (file : ModelFile) : JoinedModelFile :=
  let node := db.nodes.find? file.nodeId
  { file
    modelName := (db.models.find? file.modelId).map (·.name)
    nodeName := node.map (·.name)
    lastHeartbeatAt := node.bind (·.lastHeartbeatAt)
    verifyTaskStatus := (file.verifyTaskId.bind db.agentTasks.find?).map (·.status) }

/-- `ORDER BY n.name, mf.path`, where `NULL` comes first. -/
def JoinedModelFile.before (first second : JoinedModelFile) : Bool :=
  if first.nodeName = second.nodeName then first.file.path ≤ second.file.path
  else match first.nodeName, second.nodeName with
    | none, _ => true
    | _, none => false
    | some name, some name' => name ≤ name'

/-- The loop of `model_file_rows` over the rows that it has selected. -/
def expireModelFiles (now : Int) : List JoinedModelFile → Handler Unit
  | [] => pure ()
  | row :: rows => do
      if row.file.status = "verifying" && row.verifyTaskStatus = some .timedOut then
        execute (.expireModelFile row.file now)
        expireModelFiles now rows
      else expireModelFiles now rows

def modelFileRows (modelId fileId : Option String) : Handler (List JoinedModelFile) := do
  markTimedOutTasks
  let now ← nowUnixSecs
  let rows ← query fun db =>
    ((db.modelFiles.rows.filter fun file =>
      modelId.all (file.modelId = ·) && fileId.all (file.id = ·) && file.deletedAt.isNone).map
        (joinModelFile db)).mergeSort JoinedModelFile.before
  expireModelFiles now rows
  pure rows

def modelFileFromRow (now : Int) (row : JoinedModelFile) : ModelFileView :=
  { row.file with
    modelName := row.modelName
    nodeName := row.nodeName
    nodeStatus := match row.lastHeartbeatAt with
      | some lastSeen => if now - lastSeen ≤ onlineThresholdSecs then "online" else "offline"
      | none => "registered"
    verifyTaskStatus := row.verifyTaskStatus }

def listModelFiles (modelId : String) : Handler (List ModelFileView) := do
  ensureModelExists modelId
  let rows ← modelFileRows (some modelId) none
  let now ← nowUnixSecs
  pure (rows.map (modelFileFromRow now))

def modelFile (id : String) : Handler ModelFileView := do
  let rows ← modelFileRows none (some id)
  let row ← required (.notFound "model file not found") rows.head?
  let now ← nowUnixSecs
  pure (modelFileFromRow now row)

structure ModelFileSummary where
  fileStatus : String
  totalFileCount : Nat
  verifiedFileCount : Nat
  availableNodeCount : Nat
  lastFileVerifiedAt : Option Int

def summarizeModelFiles (rows : List ModelFile) : ModelFileSummary :=
  let verified := rows.filter (·.status = "verified")
  let isPending (file : ModelFile) : Bool :=
    file.status = "unverified" || file.status = "verify_pending" || file.status = "verifying"
  let hasPending := rows.any isPending
  let hasFailed := rows.any fun file => file.status ≠ "verified" && !isPending file
  { fileStatus :=
      if rows.length = 0 then "no_files"
      else if verified.length = rows.length then "all_files_verified"
      else if verified.length > 0 then "partially_verified"
      else if hasPending && !hasFailed then "pending_verification"
      else "verification_failed"
    totalFileCount := rows.length
    verifiedFileCount := verified.length
    availableNodeCount := (verified.map (·.nodeId)).eraseDups.length
    lastFileVerifiedAt := (rows.filterMap (·.lastVerifiedAt)).max? }

def modelFileSummary (modelId : String) : Handler ModelFileSummary := do
  markTimedOutTasks
  let rows ← query fun db =>
    db.modelFiles.rows.filter fun file => file.modelId = modelId && file.deletedAt.isNone
  pure (summarizeModelFiles rows)

/-! ### Verification -/

def verificationErrorMessage (result : Json) : String :=
  ((result.getStr "message").filter (!Text.isBlank ·)).getD "Model file verification failed"

def verificationTimedOut : DomainError :=
  .conflict "Model file verification timed out; confirm Agent is online and retry"

def verificationEnded (task : AgentTask) : Option (Handler VerifiedModelFile) :=
  match task.status with
  | .succeeded => some <|
      let result := task.resultJson.getD (.obj [])
      if (result.getStr "file_status").getD "verified" ≠ "verified" then
        throw (.badRequest (verificationErrorMessage result))
      else do
        let now ← nowUnixSecs
        pure
          { sizeBytes := result.getI64 "size_bytes"
            pathType := (result.getStr "path_type").or (some "file")
            verifiedAt := now }
  | .failed => some <|
      throw (.badRequest (((task.resultJson.map verificationErrorMessage).or
        task.errorMessage).getD "Model file verification failed"))
  | .timedOut => some (throw verificationTimedOut)
  | _ => none

def waitForModelFileVerification (taskId : String) (rounds : Nat) : Handler VerifiedModelFile :=
  waitForTask taskId verificationEnded
    (do
      markTaskTimedOut taskId
      throw verificationTimedOut)
    rounds

def verifyModelFileBeforeSave (nodeId path taskId : String) (rounds : Nat) :
    Handler VerifiedModelFile := do
  rejectIf (!(← nodeOnline nodeId))
    (.conflict "Node Agent offline, cannot verify model file")
  let now ← nowUnixSecs
  let payloadJson := Json.obj [("path", .str path)]
  inserted (← execute (.insertAgentTask
    { id := taskId, nodeId, kind := .verifyModelFile, payloadJson, now }))
  waitForModelFileVerification taskId rounds

/-! ### Requests -/

def createModelFile (modelId : String) (request : ModelFileRequest) (id taskId : String)
    (rounds : Nat) : Handler ModelFileView := do
  checked (validateNonEmpty "path" request.path)
  checked (validatePath "path" request.path)
  ensureModelExists modelId
  ensureNodeExists request.nodeId
  let verified ← verifyModelFileBeforeSave request.nodeId request.path taskId rounds
  let now ← nowUnixSecs
  inserted (← execute (.insertModelFile
    { id
      modelId
      nodeId := request.nodeId
      path := request.path
      status := "verified"
      sizeBytes := verified.sizeBytes
      lastVerifiedAt := some verified.verifiedAt
      pathType := verified.pathType
      createdAt := now
      updatedAt := now }))
  modelFile id

def updateModelFile (id : String) (request : ModelFileRequest) (taskId : String) (rounds : Nat) :
    Handler ModelFileView := do
  checked (validateNonEmpty "path" request.path)
  checked (validatePath "path" request.path)
  ensureNodeExists request.nodeId
  let verified ← verifyModelFileBeforeSave request.nodeId request.path taskId rounds
  let now ← nowUnixSecs
  let found : Bool ← execute (.updateModelFile id request.nodeId request.path verified now)
  if found then modelFile id else throw (.notFound "model file not found")

def queueModelFileVerification (id taskId : String) : Handler ModelFileView := do
  let file ← modelFile id
  let now ← nowUnixSecs
  let online ← nodeOnline file.nodeId
  let waitMessage :=
    if online then "Waiting for node Agent to verify"
    else "Waiting for node Agent to come online for verification"
  let payloadJson := Json.obj [("model_file_id", .str file.id), ("path", .str file.path)]
  inserted (← execute (.enqueueFileVerification
    { id := taskId, nodeId := file.nodeId, kind := .verifyModelFile, payloadJson, now } id
    waitMessage now))
  modelFile id

end LightAI.Server
