import LightAI.Server.Handler

/-!
# Validation and node liveness
-/

namespace LightAI.Server

def onlineThresholdSecs : Int := 60

/-- `if condition { return Err(error) }` in a validation. -/
def refuse (condition : Bool) (error : DomainError) : Except DomainError Unit :=
  if condition then .error error else .ok ()

/-- `format!("{field} is required")` unless the value has a character that is not white space. -/
def validateNonEmpty (field value : String) : Except DomainError Unit :=
  if Text.isBlank value then .error (.badRequest (field ++ " is required")) else .ok ()

def validateOneOf (field value : String) (allowed : List String) : Except DomainError Unit :=
  if value ∈ allowed then .ok () else .error (.badRequest (field ++ " is invalid"))

def validateBackend (value : String) : Except DomainError Unit :=
  validateOneOf "backend" value
    ["vllm", "ollama", "lmdeploy", "mindie", "llama_cpp", "triton", "custom"]

def validateDeployType (value : String) : Except DomainError Unit :=
  validateOneOf "deploy_type" value ["docker", "script", "binary"]

def validatePath (field value : String) : Except DomainError Unit :=
  if Text.isBlank value || Text.contains value ".." then
    .error (.badRequest (field ++ " is invalid"))
  else .ok ()

def validateNoWhitespace (field value : String) : Except DomainError Unit :=
  if Text.isBlank value || value.toList.any Text.isWhitespace then
    .error (.badRequest (field ++ " is invalid"))
  else .ok ()

def validateJsonField (deps : External) (field : String) : Option String → Except DomainError Unit
  | none => .ok ()
  | some value =>
      match deps.jsonFromStr value with
      | none => .error (.badRequest (field ++ " must be valid JSON when provided"))
      | some _ => .ok ()

def validateOptional (validate : String → Except DomainError Unit) :
    Option String → Except DomainError Unit
  | none => .ok ()
  | some value => validate value

def ensureModelExists (modelId : String) : Handler Unit := do
  let found ← query fun db => (db.models.find? modelId).any (·.deletedAt.isNone)
  if found then pure () else throw (.notFound "model not found")

def ensureNodeExists (nodeId : String) : Handler Unit := do
  let found ← query fun db => (db.nodes.find? nodeId).isSome
  if found then pure () else throw (.notFound "node not found")

def nodeOnline (nodeId : String) : Handler Bool := do
  let lastHeartbeatAt ← query fun db => (db.nodes.find? nodeId).bind (·.lastHeartbeatAt)
  match lastHeartbeatAt with
  | none => pure false
  | some lastHeartbeatAt => do
      let now ← nowUnixSecs
      pure (now - lastHeartbeatAt ≤ onlineThresholdSecs)

def ensureNodeOnline (nodeId : String) : Handler Unit := do
  if ← nodeOnline nodeId then pure ()
  else throw (.conflict "Agent is offline; runtime environment cannot be confirmed")

/-- The node whose heartbeat is recent enough at the time of the database's clock. -/
def Db.online (db : Db) (nodeId : String) : Bool :=
  match (db.nodes.find? nodeId).bind (·.lastHeartbeatAt) with
  | none => false
  | some lastHeartbeatAt => db.clock - lastHeartbeatAt ≤ onlineThresholdSecs

@[simp]
theorem serve_nodeOnline (nodeId : String) (db : Db) :
    serve (nodeOnline nodeId) db = (.ok (db.online nodeId), db) := by
  unfold nodeOnline Db.online
  rw [serve_bind_ok (serve_query _ db)]
  cases (db.nodes.find? nodeId).bind (·.lastHeartbeatAt) with
  | none => rfl
  | some lastHeartbeatAt => rfl

end LightAI.Server
