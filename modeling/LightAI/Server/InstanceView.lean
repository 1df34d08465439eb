import LightAI.Server.Support

/-!
# Reading a model instance, and the write of a check
-/

namespace LightAI.Server

/-- A row of `model_instances` joined with the names it refers to. -/
structure ModelInstanceView extends ModelInstance where
  modelDefinitionName : Option String
  modelFilePath : Option String
  nodeName : Option String
  nodeOnline : Bool
  lastHeartbeatAt : Option Int
  runtimeEnvironmentName : Option String

/-- The `SELECT` of `model_instance` with its joins. -/
def joinModelInstance (db : Db) (row : ModelInstance) : ModelInstanceView :=
  let node := row.nodeId.bind db.nodes.find?
  { row with
    modelDefinitionName := (row.modelId.bind db.models.find?).map (·.name)
    modelFilePath := (row.modelFileId.bind db.modelFiles.find?).map (·.path)
    nodeName := node.map (·.name)
    nodeOnline := false
    lastHeartbeatAt := node.bind (·.lastHeartbeatAt)
    runtimeEnvironmentName :=
      (row.runtimeEnvironmentId.bind db.runtimeEnvironments.find?).map (·.name) }

def modelInstanceFromRow (row : ModelInstanceView) : Handler ModelInstanceView := do
  let now ← nowUnixSecs
  pure { row with nodeOnline := row.lastHeartbeatAt.any (now - · ≤ onlineThresholdSecs) }

def modelInstance (id : String) : Handler ModelInstanceView := do
  let row ← query fun db => (db.modelInstances.find? id).map (joinModelInstance db)
  let row ← required (.notFound "model instance not found") row
  modelInstanceFromRow row

def updateInstanceCheck (id status : String) (error : Option String) : Handler ModelInstanceView := do
  let now ← nowUnixSecs
  execute (.updateInstanceCheck id status error now)
  modelInstance id

def updateTrashFailure (trashId : String) (status : TrashStatus) (message : String) :
    Handler Unit := do
  let now ← nowUnixSecs
  execute (.updateTrashFailure trashId status message now)

/-- The view of a row at the time of the database's clock. -/
def Db.instanceView (db : Db) (row : ModelInstance) : ModelInstanceView :=
  { joinModelInstance db row with
    nodeOnline :=
      (joinModelInstance db row).lastHeartbeatAt.any (db.clock - · ≤ onlineThresholdSecs) }

@[simp]
theorem instanceView_toModelInstance (db : Db) (row : ModelInstance) :
    (db.instanceView row).toModelInstance = row := rfl

theorem serve_modelInstance_of_some {db : Db} {id : String} {row : ModelInstance}
    (hrow : db.modelInstances.find? id = some row) :
    serve (modelInstance id) db = (.ok (db.instanceView row), db) := by
  unfold modelInstance
  rw [serve_bind_ok (serve_query _ db), hrow]
  rfl

theorem serve_modelInstance_of_none {db : Db} {id : String}
    (hrow : db.modelInstances.find? id = none) :
    serve (modelInstance id) db = (.error (.notFound "model instance not found"), db) := by
  unfold modelInstance
  rw [serve_bind_ok (serve_query _ db), hrow]
  rfl

end LightAI.Server
