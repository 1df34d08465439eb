import LightAI.Base.Program
import LightAI.Base.Table
import LightAI.Base.Text

/-!
# Nodes and their devices

The tables `nodes` and `gpu_status`, what registrations and heartbeats do to them, and how the server tells
from them whether a node is online. What a heartbeat says about instances is applied to other tables.
-/

namespace LightAI.Nodes

structure Node where
  id : String
  name : String
  hostname : String
  agentVersion : Option String := none
  os : Option String := none
  arch : Option String := none
  tokenHash : String
  tokenPrefix : String
  registeredAt : Int
  updatedAt : Int
  lastHeartbeatAt : Option Int := none
  deriving DecidableEq

/-- A row of `gpu_status`, keyed by node and device. -/
structure GpuStatus where
  nodeId : String
  gpuKey : String
  gpuIndex : Option Int := none
  vendor : String
  name : String
  uuid : Option String := none
  driverVersion : Option String := none
  memoryTotalBytes : Option Int := none
  memoryUsedBytes : Option Int := none
  collector : String
  rawJson : Option String := none
  status : Option String := none
  lastError : Option String := none
  updatedAt : Int
  deriving DecidableEq

def GpuStatus.key (row : GpuStatus) : String × String := (row.nodeId, row.gpuKey)

structure NodesDb where
  clock : Int
  nodes : Table String Node Node.id := .empty
  gpuStatus : Table (String × String) GpuStatus GpuStatus.key := .empty

/-- The functions of `auth` on tokens that rest on third-party cryptography. -/
structure TokenHash where
  hashToken : String → String

def TokenHash.verifyToken (auth : TokenHash) (token expectedHash : String) : Bool :=
  auth.hashToken token = expectedHash

def tokenPrefix (token : String) : String := String.ofList (token.toList.take 8)

/-! ### Registration -/

structure RegisterRequest where
  name : String
  hostname : String
  agentVersion : Option String := none
  os : Option String := none
  arch : Option String := none
  deriving DecidableEq

def nameConflict (db : NodesDb) (request : RegisterRequest) : Option Node :=
  db.nodes.rows.find? fun row => row.name = request.name && row.hostname ≠ request.hostname

def hostnameConflict (db : NodesDb) (request : RegisterRequest) : Option Node :=
  db.nodes.rows.find? fun row => row.hostname = request.hostname && row.name ≠ request.name

def nameConflictMessage (request : RegisterRequest) (conflictHost : String) : String :=
  "Node name '" ++ request.name ++ "' is already in use by host '" ++ conflictHost
    ++ "'; same name cannot be used for different hosts. Change node_name in Agent config"

def hostnameConflictMessage (request : RegisterRequest) (conflictName : String) : String :=
  "Host '" ++ request.hostname ++ "' is already in use by node '" ++ conflictName
    ++ "'; same host cannot be used for different names. Change hostname or node_name in Agent config"

/-- What the `INSERT` leaves of a row that is there under the same id. -/
def Node.reregistered (row excluded : Node) : Node :=
  { row with
    name := excluded.name
    hostname := excluded.hostname
    agentVersion := excluded.agentVersion
    os := excluded.os
    arch := excluded.arch
    tokenHash := excluded.tokenHash
    tokenPrefix := excluded.tokenPrefix
    updatedAt := excluded.updatedAt }

theorem Node.reregistered_id (excluded row : Node) : (row.reregistered excluded).id = row.id := rfl

/-- The `INSERT`, which fails on a name or a host name of another row. -/
def upsertNode (db : NodesDb) (row : Node) : Except String NodesDb :=
  if db.nodes.rows.any fun other => other.id ≠ row.id && other.name = row.name then
    .error "UNIQUE constraint failed: nodes.name"
  else if db.nodes.rows.any fun other => other.id ≠ row.id && other.hostname = row.hostname then
    .error "UNIQUE constraint failed: nodes.hostname"
  else
    .ok { db with
      nodes := db.nodes.upsert row (·.reregistered row) (Node.reregistered_id row) }

/-- The transaction: it returns the node's id, or leaves the tables as they are. `newId` is the id that a
new node is given. -/
def tryRegister (auth : TokenHash) (request : RegisterRequest) (now : Int) (token newId : String)
    (db : NodesDb) : Except String String × NodesDb :=
  match nameConflict db request with
  | some conflict => (.error (nameConflictMessage request conflict.hostname), db)
  | none =>
      match hostnameConflict db request with
      | some conflict => (.error (hostnameConflictMessage request conflict.name), db)
      | none =>
          let existing := db.nodes.rows.find? fun row =>
            row.name = request.name && row.hostname = request.hostname
          let nodeId := (existing.map (·.id)).getD newId
          let row : Node :=
            { id := nodeId
              name := request.name
              hostname := request.hostname
              agentVersion := request.agentVersion
              os := request.os
              arch := request.arch
              tokenHash := auth.hashToken token
              tokenPrefix := tokenPrefix token
              registeredAt := now
              updatedAt := now }
          match upsertNode db row with
          | .error message => (.error message, db)
          | .ok db' => (.ok nodeId, db')

def isUniqueViolation (message : String) : Bool := Text.contains message "UNIQUE constraint failed"

def authenticateNode (auth : TokenHash) (db : NodesDb) (nodeId token : String) : Bool :=
  (db.nodes.find? nodeId).any fun row => auth.verifyToken token row.tokenHash

def anyNodeWithToken (auth : TokenHash) (db : NodesDb) (token : String) : Bool :=
  db.nodes.rows.any fun row => auth.verifyToken token row.tokenHash

/-! ### Heartbeats -/

structure GpuMetrics where
  gpuKey : String
  gpuIndex : Option Int := none
  vendor : String
  name : String
  uuid : Option String := none
  driverVersion : Option String := none
  memoryTotalBytes : Option Int := none
  memoryUsedBytes : Option Int := none
  utilizationPercent : Option String := none
  temperatureCelsius : Option String := none
  powerWatts : Option String := none
  collector : String
  rawJson : Option String := none
  deriving DecidableEq

structure HeartbeatRequest where
  nodeId : String
  sampledAt : Int
  gpus : List GpuMetrics := []
  collectorErrors : List String := []
  deriving DecidableEq

def Node.heard (now sampledAt : Int) (row : Node) : Node :=
  { row with updatedAt := now, lastHeartbeatAt := some sampledAt }

theorem Node.heard_id (now sampledAt : Int) (row : Node) : (row.heard now sampledAt).id = row.id := rfl

def gpuRow (nodeId : String) (sampledAt : Int) (gpu : GpuMetrics) : GpuStatus :=
  { nodeId
    gpuKey := gpu.gpuKey
    gpuIndex := gpu.gpuIndex
    vendor := gpu.vendor
    name := gpu.name
    uuid := gpu.uuid
    driverVersion := gpu.driverVersion
    memoryTotalBytes := gpu.memoryTotalBytes
    memoryUsedBytes := gpu.memoryUsedBytes
    collector := gpu.collector
    rawJson := gpu.rawJson
    updatedAt := sampledAt }

/-- What the `INSERT` leaves of a row that is there: all that the device reports, and no status. -/
def GpuStatus.sampled (excluded row : GpuStatus) : GpuStatus :=
  { excluded with nodeId := row.nodeId, gpuKey := row.gpuKey, status := none, lastError := none }

theorem GpuStatus.sampled_key (excluded row : GpuStatus) : (excluded.sampled row).key = row.key := rfl

def upsertGpuStatus (nodeId : String) (sampledAt : Int) (db : NodesDb) (gpu : GpuMetrics) : NodesDb :=
  { db with
    gpuStatus := db.gpuStatus.upsert (gpuRow nodeId sampledAt gpu) (gpuRow nodeId sampledAt gpu).sampled
      (GpuStatus.sampled_key (gpuRow nodeId sampledAt gpu)) }

def GpuStatus.missing (sampledAt : Int) (row : GpuStatus) : GpuStatus :=
  { row with
    status := some "missing"
    lastError := some "device not found in latest discovery"
    updatedAt := sampledAt }

theorem GpuStatus.missing_key (sampledAt : Int) (row : GpuStatus) :
    (row.missing sampledAt).key = row.key := rfl

def markMissingGpus (nodeId : String) (sampledAt : Int) (db : NodesDb) : NodesDb :=
  { db with
    gpuStatus := db.gpuStatus.updateWhere (fun row => row.nodeId = nodeId && row.updatedAt < sampledAt)
      (·.missing sampledAt) (GpuStatus.missing_key sampledAt) }

/-- The transaction, as far as it writes these two tables. -/
def recordHeartbeat (request : HeartbeatRequest) (db : NodesDb) : NodesDb :=
  let heard :=
    { db with
      nodes := db.nodes.update request.nodeId (·.heard db.clock request.sampledAt)
        (Node.heard_id db.clock request.sampledAt) }
  let sampled := request.gpus.foldl (upsertGpuStatus request.nodeId request.sampledAt) heard
  if request.collectorErrors.isEmpty then
    markMissingGpus request.nodeId request.sampledAt sampled
  else sampled

theorem nodes_samples (nodeId : String) (sampledAt : Int) (gpus : List GpuMetrics) (db : NodesDb) :
    (gpus.foldl (upsertGpuStatus nodeId sampledAt) db).nodes = db.nodes ∧
      (gpus.foldl (upsertGpuStatus nodeId sampledAt) db).clock = db.clock := by
  induction gpus generalizing db with
  | nil => exact ⟨rfl, rfl⟩
  | cons gpu gpus ih => exact ih (upsertGpuStatus nodeId sampledAt db gpu)

theorem nodes_recordHeartbeat (request : HeartbeatRequest) (db : NodesDb) :
    (recordHeartbeat request db).nodes
        = db.nodes.update request.nodeId (·.heard db.clock request.sampledAt)
            (Node.heard_id db.clock request.sampledAt) ∧
      (recordHeartbeat request db).clock = db.clock := by
  have hsamples := nodes_samples request.nodeId request.sampledAt request.gpus
    { db with
      nodes := db.nodes.update request.nodeId (·.heard db.clock request.sampledAt)
        (Node.heard_id db.clock request.sampledAt) }
  unfold recordHeartbeat
  dsimp only
  split
  · exact hsamples
  · exact hsamples

/-! ### The server -/

inductive Event where
  | tick (clock : Int)
  | register (request : RegisterRequest) (token newId : String)
  | heartbeat (token : String) (request : HeartbeatRequest)
  deriving DecidableEq

/-- `agent_heartbeat` authenticates the node before it records anything. -/
def Accepted (auth : TokenHash) (db : NodesDb) (token : String) (request : HeartbeatRequest) : Prop :=
  authenticateNode auth db request.nodeId token = true

instance (auth : TokenHash) (db : NodesDb) (token : String) (request : HeartbeatRequest) :
    Decidable (Accepted auth db token request) :=
  inferInstanceAs (Decidable (authenticateNode auth db request.nodeId token = true))

def step (auth : TokenHash) (db : NodesDb) : Event → NodesDb
  | .tick clock => { db with clock }
  | .register request token newId => (tryRegister auth request db.clock token newId db).2
  | .heartbeat token request =>
      if Accepted auth db token request then recordHeartbeat request db else db

/-! ### Who is online -/

def onlineThresholdSecs : Int := 60

/-- A difference of two `i64`, which a release build lets wrap around. -/
def ageSecs (now lastSeen : Int) : Int := Int.bmod (now - lastSeen) (2 ^ 64)

/-- The difference does not fit. -/
def AgeOverflows (now lastSeen : Int) : Prop := now - lastSeen < -2 ^ 63 ∨ 2 ^ 63 ≤ now - lastSeen

/-- The comparison, which several functions make. -/
def seenRecently (now : Int) (lastHeartbeatAt : Option Int) : Bool :=
  lastHeartbeatAt.any fun lastSeen => ageSecs now lastSeen ≤ onlineThresholdSecs

def nodeOnline (db : NodesDb) (nodeId : String) : Bool :=
  seenRecently db.clock ((db.nodes.find? nodeId).bind (·.lastHeartbeatAt))

/-- The status that `list_nodes` shows for a row. -/
def listedStatus (now : Int) (row : Node) : String :=
  match row.lastHeartbeatAt with
  | some lastSeen => if ageSecs now lastSeen ≤ onlineThresholdSecs then "online" else "offline"
  | none => "registered"

/-! ### A first node -/

/-- Tokens that are stored as they are. -/
def plainTokens : TokenHash := ⟨fun token => token⟩

def registerNodeA : Event :=
  .register { name := "node-a", hostname := "host-a" } "token" "node-1"

end LightAI.Nodes
