import LightAI.Agent.Reachable
import LightAI.Base.Interleaving
import LightAI.Server.Operations
import LightAI.Server.Platform

/-!
# The server and one of its agents

The loop of the heartbeats and the loop of the tasks of an agent go on independently, one operation at a
time. What they come to is sent to the server, which receives it at some later time, in any order, or not
at all. A heartbeat carries the reports as they were when it was collected.
-/

namespace LightAI.System

open Interleaving
open Agent (Async Moment Op World)
open Server (AgentTaskResultRequest HeartbeatRequest ManagedInstanceReport Platform PlatformOperation
  Request ServerOperation ServerState TaskKind serve)

/-! ### The work of an agent -/

/-- What the two loops of an agent do: collect the reports for a heartbeat, or handle a task. -/
inductive AgentWork where
  | heartbeat (sampledAt : Int)
  | task (id : String) (kind : TaskKind) (payload : Json)

inductive AgentOutcome where
  | reported (reports : List ManagedInstanceReport)
  | handled (result : Agent.ModelInstanceTaskResult)

/-- How the agent handles a check, and likewise a test. -/
def handleCheck (payload : Json) : Async Agent.ModelInstanceTaskResult :=
  if Agent.payloadText payload "backend" = "ollama" then Agent.await (.checkOllama payload)
  else Agent.testModelInstance payload

def handleTest (payload : Json) : Async Agent.ModelInstanceTaskResult :=
  if Agent.payloadText payload "backend" = "ollama" then Agent.await (.testOllama payload)
  else Agent.testModelInstance payload

/-- The tasks on instances. -/
def handleTask (deps : Agent.External) (kind : TaskKind) (payload : Json) :
    Option (Async Agent.ModelInstanceTaskResult) :=
  match kind with
  | .startModelInstance => some (Agent.handleStart deps payload)
  | .stopModelInstance => some (Agent.handleStop deps payload)
  | .checkModelInstance => some (handleCheck payload)
  | .testModelInstance => some (handleTest payload)
  | _ => none

def AgentWork.program (deps : Agent.External) : AgentWork → Async AgentOutcome
  | heartbeat _ => do
      let reports ← Agent.reports deps
      pure (.reported reports)
  | task _ kind payload =>
      match handleTask deps kind payload with
      | some program => do
          let result ← program
          pure (.handled result)
      -- The other kinds of tasks are none of the instances' concern.
      | none => pure (.reported [])

def agentSystem (env : Nat → Moment) (deps : Agent.External) :
    Interleaving.System AgentWork Unit Op Op.Answer World AgentOutcome where
  handle := AgentWork.program deps
  exec := Op.exec env
  act _ := World.tick

abbrev AgentConfig := Config AgentWork Op Op.Answer World AgentOutcome

/-! ### What an agent sends -/

/-- The fields of a result, of which those that are absent are left out. -/
def resultJson (result : Agent.ModelInstanceTaskResult) : Json :=
  let text (key : String) (value : Option String) : List (String × Json) :=
    (value.map fun value => (key, Json.str value)).toList
  .obj ([("instance_status", .str result.instanceStatus), ("message", .str result.message)]
    ++ text "base_url" result.baseUrl
    ++ text "endpoint_url" result.endpointUrl
    ++ (result.processId.map fun processId => ("process_id", Json.int processId)).toList
    ++ text "process_ref" result.processRef
    ++ text "response_summary" result.responseSummary
    ++ text "log_tail" result.logTail
    ++ text "command" result.command)

/-- A start succeeds with `running`, a stop with `stopped`, a check and a test with `running`. -/
def taskSucceeded (kind : TaskKind) (result : Agent.ModelInstanceTaskResult) : Bool :=
  match kind with
  | .stopModelInstance => result.instanceStatus = "stopped"
  | _ => result.instanceStatus = "running"

def resultRequest (nodeId : String) (kind : TaskKind) (result : Agent.ModelInstanceTaskResult) :
    AgentTaskResultRequest where
  nodeId
  status := if taskSucceeded kind result then "succeeded" else "failed"
  result := resultJson result

/-- What an agent has ready to be sent once a piece of work has ended. -/
inductive AgentMessage where
  | heartbeat (request : HeartbeatRequest)
  | result (taskId : String) (request : AgentTaskResultRequest)

def AgentMessage.request : AgentMessage → Request
  | heartbeat request => .recordHeartbeat request
  | result taskId request => .recordAgentTaskResult taskId request

def messageOf (nodeId : String) : AgentWork → AgentOutcome → Option AgentMessage
  | .heartbeat sampledAt, .reported managedInstances =>
      some (.heartbeat { nodeId, sampledAt, managedInstances })
  | .task id kind _, .handled result => some (.result id (resultRequest nodeId kind result))
  | _, _ => none

/-! ### The two together -/

/-- The server as the requests of the agent and all others act on it. -/
structure ServerSide (σ ω : Type) where
  db : σ → Server.Db
  perform : σ → ω → σ
  poll : String → Option Int → ω
  receive : AgentMessage → ω

/-- The server with all its requests. -/
def platformSide (deps : Server.External) : ServerSide Platform PlatformOperation where
  db s := s.db
  perform s operation := operation.perform deps s
  poll nodeId currentConfigVersion := .serve (.plain (.pollAgentTask nodeId currentConfigVersion []))
  receive message := .serve (.plain message.request)

/-- The server with its requests on instances. -/
def instanceSide (deps : Server.External) : ServerSide ServerState ServerOperation where
  db s := s.db
  perform s operation := operation.perform deps s
  poll nodeId currentConfigVersion := .task (.pollAgentTask nodeId currentConfigVersion)
  receive
    | .heartbeat request => .recordHeartbeat request
    | .result taskId request => .task (.recordAgentTaskResult taskId request)

/-- `received` are the pieces of work whose message the server has received. -/
structure AgentLink (σ : Type) where
  server : σ
  agent : AgentConfig := ⟨{}, []⟩
  received : List Nat := []

inductive LinkEvent (ω : Type) where
  /-- Any other request to the server, from users and other agents, and what else happens there. -/
  | server (operation : ω)
  /-- The server answers a poll of the agent, which begins with the task that it gets. -/
  | poll (currentConfigVersion : Option Int)
  /-- The agent begins to collect the reports for a heartbeat. -/
  | beat (sampledAt : Int)
  /-- A piece of work goes on by one operation. -/
  | work (index : Nat)
  /-- A round of the monitor of an instance. -/
  | monitor (instanceId : String)
  /-- Time passes on the agent. -/
  | pause
  /-- The server receives the message of a piece of work that has ended. -/
  | receive (index : Nat)

/-- The message of a piece of work that has ended and whose message has not been received. -/
def AgentLink.message {σ : Type} (s : AgentLink σ) (nodeId : String) (index : Nat) : Option AgentMessage :=
  if index ∈ s.received then none
  else do
    let t ← s.agent.threads[index]?
    let outcome ← t.result
    messageOf nodeId t.request outcome

/-- What the answer to a poll gives the agent to do. -/
def polledWork (deps : Agent.External) :
    Except Server.DomainError Server.AgentTaskPollResponse → Option AgentWork
  | .ok { task := some task, .. } =>
      if (handleTask deps task.kind task.payload).isSome then
        some (.task task.id task.kind task.payload)
      else none
  | _ => none

section Step

variable {σ ω : Type} (side : ServerSide σ ω) (env : Nat → Moment) (deps : Agent.External)
  (nodeId : String)

def AgentLink.step (s : AgentLink σ) : LinkEvent ω → AgentLink σ
  | .server operation => { s with server := side.perform s.server operation }
  | .poll currentConfigVersion =>
      let polled := (serve (Server.pollAgentTask nodeId currentConfigVersion []) (side.db s.server)).1
      { s with
        server := side.perform s.server (side.poll nodeId currentConfigVersion)
        agent :=
          match polledWork deps polled with
          | some work => (agentSystem env deps).apply s.agent (.spawn work)
          | none => s.agent }
  | .beat sampledAt =>
      { s with agent := (agentSystem env deps).apply s.agent (.spawn (.heartbeat sampledAt)) }
  | .work index => { s with agent := (agentSystem env deps).apply s.agent (.step index) }
  | .monitor instanceId =>
      { s with agent.shared := ((Op.monitor instanceId).exec env s.agent.shared).2 }
  | .pause => { s with agent := (agentSystem env deps).apply s.agent (.env ()) }
  | .receive index =>
      match s.message nodeId index with
      | none => s
      | some message =>
          { s with
            server := side.perform s.server (side.receive message)
            received := index :: s.received }

end Step

end LightAI.System
