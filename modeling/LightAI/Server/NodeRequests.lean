import LightAI.Server.GpuPresence
import LightAI.Server.MovedFiles

/-!
# The requests of agents

An agent sends heartbeats, polls and results, each under the name of its node, and a handler serves them
once `authenticate_node` has accepted the token for that node. A heartbeat writes the tables of the node's
state in the transaction in which it reconciles the instances; here these tables stand beside the platform.
-/

namespace LightAI.Server

/-- What a node measures of itself. The share of the processor is kept as its text. -/
structure NodeMetrics where
  cpuUsagePercent : Option String := none
  memoryTotalBytes : Option Int := none
  memoryUsedBytes : Option Int := none
  diskTotalBytes : Option Int := none
  diskUsedBytes : Option Int := none

/-- The body of a heartbeat. -/
structure AgentHeartbeat where
  nodeId : String
  sampledAt : Int
  metrics : NodeMetrics := {}
  gpus : List Nodes.GpuMetrics := []
  collectorErrors : List String := []
  collectorStatus : String := "no_collector_configured"
  agentConfig : Option AgentConfig := none
  managedInstances : List ManagedInstanceReport := []

/-- A row of `node_status`. Columns of JSON are kept as the values that they hold. -/
structure NodeStatus where
  nodeId : String
  cpuUsagePercent : Option String
  memoryTotalBytes : Option Int
  memoryUsedBytes : Option Int
  diskTotalBytes : Option Int
  diskUsedBytes : Option Int
  collectorErrorsJson : List String
  collectorStatus : String
  updatedAt : Int
  agentConfigVersion : Option Int
  heartbeatIntervalSecs : Option Int
  metricsSampleIntervalSecs : Option Int
  taskPollIntervalSecs : Option Int
  configRefreshIntervalSecs : Option Int
  commandTimeoutSecs : Option Int
  environmentCheckTimeoutSecs : Option Int
  allowedModelDirsJson : Option (List String)
  collectorTimeoutSecs : Option Int
  collectorMaxOutputBytes : Option Int
  lastConfigUpdatedAt : Option Int

/-- `value as i64`, which wraps around. -/
def asI64 (value : Nat) : Int := Int.bmod value (2 ^ 64)

/-- The row that a heartbeat inserts. -/
def AgentHeartbeat.status (request : AgentHeartbeat) : NodeStatus :=
  { nodeId := request.nodeId
    cpuUsagePercent := request.metrics.cpuUsagePercent
    memoryTotalBytes := request.metrics.memoryTotalBytes
    memoryUsedBytes := request.metrics.memoryUsedBytes
    diskTotalBytes := request.metrics.diskTotalBytes
    diskUsedBytes := request.metrics.diskUsedBytes
    collectorErrorsJson := request.collectorErrors
    collectorStatus := request.collectorStatus
    updatedAt := request.sampledAt
    agentConfigVersion := request.agentConfig.map (·.configVersion)
    heartbeatIntervalSecs := request.agentConfig.map (asI64 <| ·.heartbeatIntervalSecs)
    metricsSampleIntervalSecs := request.agentConfig.map (asI64 <| ·.metricsSampleIntervalSecs)
    taskPollIntervalSecs := request.agentConfig.map (asI64 <| ·.taskPollIntervalSecs)
    configRefreshIntervalSecs := request.agentConfig.map (asI64 <| ·.configRefreshIntervalSecs)
    commandTimeoutSecs := request.agentConfig.map (asI64 <| ·.commandTimeoutSecs)
    environmentCheckTimeoutSecs := request.agentConfig.map (asI64 <| ·.environmentCheckTimeoutSecs)
    allowedModelDirsJson := request.agentConfig.map (·.allowedModelDirs)
    collectorTimeoutSecs := request.agentConfig.map (asI64 <| ·.collectorTimeoutSecs)
    collectorMaxOutputBytes := request.agentConfig.map (asI64 <| ·.collectorMaxOutputBytes)
    lastConfigUpdatedAt := request.agentConfig.bind (·.lastConfigUpdatedAt) }

/-- What the `INSERT` leaves of a row that is there: every column is taken from the new one. -/
def NodeStatus.reported (excluded row : NodeStatus) : NodeStatus := { excluded with nodeId := row.nodeId }

theorem NodeStatus.reported_nodeId (excluded row : NodeStatus) :
    (excluded.reported row).nodeId = row.nodeId := rfl

/-- The server with the tables of its nodes' state. -/
structure Fleet where
  platform : Platform
  gpuStatus : Table (String × String) Nodes.GpuStatus Nodes.GpuStatus.key := .empty
  nodeStatus : Table String NodeStatus NodeStatus.nodeId := .empty

/-- What `record_heartbeat` reads of the request to reconcile the instances. -/
def AgentHeartbeat.reports (request : AgentHeartbeat) : HeartbeatRequest :=
  { nodeId := request.nodeId
    sampledAt := request.sampledAt
    managedInstances := request.managedInstances }

/-- What it reads of the request to sample the devices. -/
def AgentHeartbeat.devices (request : AgentHeartbeat) : Nodes.HeartbeatRequest :=
  { nodeId := request.nodeId
    sampledAt := request.sampledAt
    gpus := request.gpus
    collectorErrors := request.collectorErrors }

inductive AgentRequest where
  | heartbeat (request : AgentHeartbeat)
  | poll (nodeId : String) (currentConfigVersion : Option Int) (waits : List Bool)
  | result (taskId : String) (request : AgentTaskResultRequest)

/-- The node that the request is authenticated for. -/
def AgentRequest.nodeId : AgentRequest → String
  | heartbeat request => request.nodeId
  | poll nodeId _ _ => nodeId
  | result _ request => request.nodeId

/-- The request as it is served on the platform's tables. -/
def AgentRequest.request : AgentRequest → Request
  | heartbeat request => .recordHeartbeat request.reports
  | poll nodeId currentConfigVersion waits => .pollAgentTask nodeId currentConfigVersion waits
  | result taskId request => .recordAgentTaskResult taskId request

/-- The rows of a heartbeat in the tables of the nodes' state. The statements on devices do not read the
table of nodes. A node that is not there is refused by a foreign key. -/
def Fleet.recordStatus (s : Fleet) (request : AgentHeartbeat) : Fleet :=
  if (s.platform.db.nodes.find? request.nodeId).isSome then
    { s with
      gpuStatus := (Nodes.recordHeartbeat request.devices
        { clock := s.platform.db.clock, gpuStatus := s.gpuStatus }).gpuStatus
      nodeStatus := s.nodeStatus.upsert request.status request.status.reported
        (NodeStatus.reported_nodeId request.status) }
  else s

inductive FleetEvent where
  | agent (request : AgentRequest)
  | operation (op : PlatformOperation)

/-- The request comes from an agent. -/
def Request.fromAgent : Request → Bool
  | pollAgentTask .. | recordAgentTaskResult .. | recordHeartbeat .. => true
  | _ => false

/-- What the event is on the platform. The requests of agents are events of their own. -/
def FleetEvent.operation? : FleetEvent → Option PlatformOperation
  | agent request => some (.serve (.plain request.request))
  | operation (.serve (.plain request)) =>
      if request.fromAgent then none else some (.serve (.plain request))
  | operation op => some op

def FleetEvent.perform (deps : External) (s : Fleet) (e : FleetEvent) : Fleet :=
  let recorded :=
    match e with
    | agent (.heartbeat request) => s.recordStatus request
    | _ => s
  match e.operation? with
  | some op => { recorded with platform := op.perform deps s.platform }
  | none => s

end LightAI.Server
