import LightAI.Base.FirstMarker
import LightAI.Server.ModelFiles

/-!
# The trash of model files
-/

namespace LightAI.Server

structure ModelFileTrashView extends ModelFileTrash where
  modelName : Option String
  nodeName : Option String

/-- The part of a deleted model's name before the mark of its deletion. -/
def trashModelName (model : Model) : String :=
  match model.deletedAt, FirstMarker.before "__deleted__".toList model.name.toList with
  | some _, some name => String.ofList name
  | _, _ => model.name

def modelFileTrashItem (id : String) : Handler ModelFileTrashView := do
  let row ← query fun db =>
    (db.modelFileTrash.find? id).map fun item =>
      { item with
        modelName := (item.modelId.bind db.models.find?).map trashModelName
        nodeName := (item.nodeId.bind db.nodes.find?).map (·.name) : ModelFileTrashView }
  required (.notFound "trash item not found") row

/-- `SELECT id ... WHERE model_file_id = ? ORDER BY created_at DESC LIMIT 1`. -/
def latestTrashItem (db : Db) (modelFileId : String) : Option String :=
  ((db.modelFileTrash.rows.filter (·.modelFileId = some modelFileId)).argmax (·.createdAt)).map
    (·.id)

def ensureModelFileTrash (modelFileId : String) (reason note : Option String) (id : String) :
    Handler ModelFileTrashView := do
  let existingId ← query fun db => latestTrashItem db modelFileId
  match existingId with
  | some existingId => modelFileTrashItem existingId
  | none => do
      let file ← modelFile modelFileId
      let now ← nowUnixSecs
      inserted (← execute (.insertTrash
        { id
          modelFileId := some modelFileId
          modelId := some file.modelId
          nodeId := some file.nodeId
          path := file.path
          reason
          status := .pending
          note
          createdAt := now
          updatedAt := now }))
      modelFileTrashItem id

structure ModelFileTrashRequest where
  reason : Option String := none
  note : Option String := none

def createModelFileTrash (modelFileId : String) (request : ModelFileTrashRequest) (id : String) :
    Handler ModelFileTrashView :=
  ensureModelFileTrash modelFileId request.reason request.note id

def deleteModelFile (id trashId : String) : Handler Unit := do
  let _ ← ensureModelFileTrash id (some "Remove node file path from model")
    (some "Only removes the model-file association; actual files are not deleted.") trashId
  let now ← nowUnixSecs
  let found : Bool ← execute (.deleteModelFile id now)
  if found then pure () else throw (.notFound "model file not found")

/-! ### Cleaning up -/

def cleanupTimedOut : DomainError :=
  .conflict "file cleanup timed out; confirm Agent is online and retry"

def cleanupEnded (trashId : String) (task : AgentTask) : Option (Handler ModelFileTrashView) :=
  match task.status with
  | .succeeded => some (modelFileTrashItem trashId)
  | .failed => some (throw (.conflict (failureMessage task "File cleanup failed")))
  | .timedOut => some (throw cleanupTimedOut)
  | _ => none

def cleanupDeadline (trashId taskId : String) : Handler ModelFileTrashView := do
  markTaskTimedOut taskId
  updateTrashFailure trashId .cleanupTimeout "file cleanup timed out"
  throw cleanupTimedOut

def waitForModelFileCleanup (trashId taskId : String) (rounds : Nat) : Handler ModelFileTrashView :=
  waitForTask taskId (cleanupEnded trashId) (cleanupDeadline trashId taskId) rounds

/-- `cleanup_model_file_trash` from the enqueueing on. -/
def runCleanupTask (id nodeId path taskId : String) (rounds : Nat) : Handler ModelFileTrashView := do
  let now ← nowUnixSecs
  let payloadJson := Json.obj [("trash_id", .str id), ("path", .str path)]
  inserted (← execute (.insertAgentTask
    { id := taskId, nodeId, kind := .cleanupModelFile, payloadJson, now }))
  execute (.setTrashCleanupPending id taskId now)
  waitForModelFileCleanup id taskId rounds

def cleanupModelFileTrash (id taskId : String) (rounds : Nat) : Handler ModelFileTrashView := do
  let item ← modelFileTrashItem id
  let nodeId ← required (.badRequest "trash item has no node") item.nodeId
  if item.fileDeletedAt.isSome then pure item
  else if ← nodeOnline nodeId then runCleanupTask id nodeId item.path taskId rounds
  else do
    updateTrashFailure id .cleanupFailed "Node Agent offline, cannot clean up file"
    throw (.conflict "Node Agent offline, cannot clean up file")

def deleteModelFileTrash (id : String) : Handler Unit := do
  let found : Bool ← execute (.deleteTrash id)
  if found then pure () else throw (.notFound "trash item not found")

end LightAI.Server
