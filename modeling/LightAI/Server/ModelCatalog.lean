import LightAI.Server.Requests

/-!
# Models

A model is created together with its first file, once the agent has verified it, and deleting a model puts
its files into the trash without deleting their rows. Of the columns of a model only those that an
operation here reads are kept.
-/

namespace LightAI.Server

structure ModelRequest where
  name : String
  modelType : String
  modelPath : Option String := none
  defaultBackend : Option String := none
  paramsJson : Option String := none
  initialFile : Option ModelFileRequest := none

def validateModelType (value : String) : Except DomainError Unit :=
  validateOneOf "model_type" value ["llm", "embedding", "rerank", "vlm", "asr", "tts", "other"]

/-- The checks that `create_model` and `update_model` start with. -/
def validateModelRequest (deps : External) (request : ModelRequest) : Except DomainError Unit := do
  validateNonEmpty "name" request.name
  validateModelType request.modelType
  validateOptional validateBackend request.defaultBackend
  validateOptional (validatePath "model_path") request.modelPath
  validateJsonField deps "params_json" request.paramsJson

/-- The first file of a new model, which has to be given. -/
def initialModelFile (deps : External) (request : ModelRequest) : Handler ModelFileRequest := do
  checked (validateModelRequest deps request)
  let initialFile ← required (.badRequest "initial_file is required") request.initialFile
  checked (validateNonEmpty "initial_file.path" initialFile.path)
  checked (validatePath "initial_file.path" initialFile.path)
  ensureNodeExists initialFile.nodeId
  pure initialFile

/-- The name of a deleted model, which leaves the old one free. -/
def Model.releaseName (model : Model) : Model :=
  { model with name := model.name ++ "__deleted__" ++ String.ofList (model.id.toList.take 8) }

/-- The models before a new one of this name is inserted. -/
def releaseModelName (models : Table String Model Model.id) (name : String) :
    Table String Model Model.id :=
  models.updateWhere (fun model => model.name = name && model.deletedAt.isSome) Model.releaseName
    fun _ => rfl

/-- The `INSERT` of a model, whose name is unique. -/
def insertModel (models : Table String Model Model.id) (model : Model) :
    Option (Table String Model Model.id) :=
  if ((models.rows ++ [model]).map (·.name)).Nodup then models.insert? model else none

/-- The transaction of `create_model`, which is undone when a row is refused. -/
def createModelRows (model : Model) (file : ModelFile) (db : Db) : Db :=
  match insertModel (releaseModelName db.models model.name) model with
  | none => db
  | some models =>
      let answer : Bool × Db := (Stmt.insertModelFile file).exec { db with models }
      if answer.1 then answer.2 else db

/-- The `UPDATE` of `update_model`, as far as a column is kept here. -/
def updateModelRow (models : Table String Model Model.id) (id name : String) :
    Table String Model Model.id :=
  models.updateWhere (fun model => model.id = id && model.deletedAt.isNone)
    (fun model => { model with name }) fun _ => rfl

/-! ### Deleting a model -/

def trashModelFiles (trashId : String → String) : List String → Handler Unit
  | [] => pure ()
  | fileId :: fileIds => do
      let _ ← ensureModelFileTrash fileId (some "Delete model configuration")
        (some <| "Model config removed; actual files not deleted. " ++
          "Process individually in Trash.") (trashId fileId)
      trashModelFiles trashId fileIds

/-- `delete_model` up to its last statement. `trashId` is the id of the trash item of each file. -/
def trashModel (id : String) (trashId : String → String) : Handler Unit := do
  let protectedCount ← query fun db =>
    (db.modelInstances.rows.filter fun row =>
      row.modelId = some id && (row.status = "starting" || row.status = "running")).length
  rejectIf (protectedCount > 0) (.conflict "model has starting or running instances")
  let found ← query fun db => (db.models.find? id).any (·.deletedAt.isNone)
  rejectIf (!found) (.notFound "model not found")
  let fileIds ← query fun db =>
    ((db.modelFiles.rows.filter fun file => file.modelId = id && file.deletedAt.isNone).mergeSort
      fun first second => first.createdAt ≤ second.createdAt).map (·.id)
  trashModelFiles trashId fileIds

/-- The models after the last statement of `delete_model`, if their names allow it. -/
def releaseDeleted (models : Table String Model Model.id) (id : String) (now : Int) :
    Table String Model Model.id :=
  models.updateWhere (fun model => model.id = id && model.deletedAt.isNone)
    (fun model => { model.releaseName with deletedAt := some now }) fun _ => rfl

/-- The last statement of `delete_model`, which leaves the models as they are if two of them would have one
name. -/
def deleteModelRow (models : Table String Model Model.id) (id : String) (now : Int) :
    Table String Model Model.id :=
  if ((releaseDeleted models id now).rows.map (·.name)).Nodup then releaseDeleted models id now else models

end LightAI.Server
