import LightAI.Agent.Collectors
import LightAI.Base.Trace

/-!
# The heartbeat loop of the agent

A cycle takes a copy of the configuration, runs the collectors and sends a heartbeat. It registers first
where the agent has no state, and again where the server does not accept the token. What it brings back
is written into the configuration at its end, and until then the task loop may have written there as well.
-/

namespace LightAI.Heartbeats

open Server (AgentConfig)
open Agent (RegistryEntry RuntimeConfig)
open Collectors
open Nodes (HeartbeatRequest)

/-! ### What a cycle meets -/

structure AgentState where
  nodeId : String
  agentToken : String
  deriving DecidableEq

structure RegisterResponse where
  nodeId : String
  agentToken : String
  heartbeatIntervalSecs : Nat := 15
  agentConfig : Option AgentConfig

structure HeartbeatResponse where
  agentConfig : Option AgentConfig
  collectorRegistry : List RegistryEntry := []
  deriving DecidableEq

inductive HeartbeatAnswer where
  | accepted (response : HeartbeatResponse)
  | unauthorized
  | failed

/-- An attempt to register: the answer, unless it failed, and whether the new state could be stored. -/
structure Registration where
  answer : Option RegisterResponse
  saved : Bool := true

/-- All that a cycle gets from outside. The state is `none` where it cannot be read. -/
structure Cycle where
  clientBuilt : Bool := true
  loaded : Option (Option AgentState)
  registration : Registration := { answer := none }
  fetch : String → Option (List RegistryEntry)
  host : Host
  sampledAt : Int := 0
  heartbeat : String → HeartbeatRequest → HeartbeatAnswer
  reregistration : Registration := { answer := none }
  secondHeartbeat : String → HeartbeatRequest → HeartbeatAnswer := fun _ _ => .failed

/-! ### One cycle -/

structure RegisteredAgent where
  state : AgentState
  agentConfig : AgentConfig

def register (attempt : Registration) : Option RegisteredAgent :=
  match attempt.answer with
  | none => none
  | some response =>
      if attempt.saved then
        some
          { state := { nodeId := response.nodeId, agentToken := response.agentToken }
            agentConfig := response.agentConfig.getD
              { configVersion := 0, heartbeatIntervalSecs := response.heartbeatIntervalSecs } }
      else none

/-- The agent's state, with the configuration if it had to register for it. -/
def identify (cycle : Cycle) : Option (AgentState × Option AgentConfig) :=
  if !cycle.clientBuilt then none
  else
    match cycle.loaded with
    | none => none
    | some (some state) => some (state, none)
    | some none =>
        (register cycle.registration).map fun registered =>
          (registered.state, some registered.agentConfig)

def fetchRegistry (runtime : RuntimeConfig) (cycle : Cycle) (state : AgentState) :
    Option (List RegistryEntry) :=
  if runtime.collectorRoot.isSome then cycle.fetch state.agentToken else none

def toCollectorConfig (runtime : RuntimeConfig) : CollectorConfig where
  collectorRoot := runtime.collectorRoot
  collectorMode := runtime.collectorMode
  collectorEnabled := runtime.collectorEnabled
  collectorDisabled := runtime.collectorDisabled
  collectorRegistry := runtime.collectorRegistry
  collectorTimeoutSecs := runtime.collectorTimeoutSecs
  collectorMaxOutputBytes := runtime.collectorMaxOutputBytes

def emptyFetchError : String :=
  "collector registry fetch: entries=0 (no collectors registered on Server).Register collectors via the Web collector registry page."

/-- The first error that speaks of an empty registry is put in other words. -/
def enhanceCollectorErrors (errors : List String) (registry : List RegistryEntry) : List String :=
  if registry = [] then
    match errors.findIdx? fun e => Text.contains e "registry is empty" with
    | none => errors
    | some pos => errors.set pos emptyFetchError
  else errors

def heartbeatRequest (nodeId : String) (sampledAt : Int) (registry : List RegistryEntry)
    (collected : Visit) : HeartbeatRequest where
  nodeId := nodeId
  sampledAt := sampledAt
  gpus := collected.gpus
  collectorErrors := enhanceCollectorErrors collected.errors registry

/-- The end of a cycle: the configuration of its last registration, and the response. -/
structure Ending where
  registered : Option AgentConfig
  response : HeartbeatResponse
  deriving DecidableEq

def report (cycle : Cycle) (state : AgentState) (registered : Option AgentConfig)
    (request : HeartbeatRequest) : Option Ending :=
  match cycle.heartbeat state.agentToken request with
  | .accepted response => some { registered, response }
  | .failed => none
  | .unauthorized =>
      match register cycle.reregistration with
      | none => none
      | some again =>
          match cycle.secondHeartbeat again.state.agentToken
              { request with nodeId := again.state.nodeId } with
          | .accepted response => some { registered := some again.agentConfig, response }
          | .unauthorized => none
          | .failed => none

/-- What a cycle has done: the registry that it fetched and the one it went by, what it ran, the request
that it put together, and its end unless it failed. -/
structure Round where
  fetched : Option (List RegistryEntry) := none
  usedRegistry : List RegistryEntry := []
  collected : Visit := {}
  request : Option HeartbeatRequest := none
  ending : Option Ending := none

def runOnce (sha256 : Bytes → String) (runtime : RuntimeConfig) (cycle : Cycle) : Round :=
  match identify cycle with
  | none => {}
  | some (state, registered) =>
      let fetched := fetchRegistry runtime cycle state
      let usedRegistry := fetched.getD runtime.collectorRegistry
      let collected := collectGpus sha256 cycle.host
        { toCollectorConfig runtime with collectorRegistry := usedRegistry }
      let request := heartbeatRequest state.nodeId cycle.sampledAt usedRegistry collected
      { fetched
        usedRegistry
        collected
        request := some request
        ending := report cycle state registered request }

/-- The configuration that the cycle brings back: that of the response, or else of the registration. -/
def Ending.nextConfig (ending : Ending) : Option AgentConfig :=
  ending.response.agentConfig.or ending.registered

def mergedRegistry (used newRegistry cached : List RegistryEntry) : List RegistryEntry :=
  if used ≠ [] then used
  else if newRegistry ≠ [] then newRegistry
  else cached

def settle (runtime : RuntimeConfig) (round : Round) : RuntimeConfig :=
  match round.ending with
  | none => runtime
  | some ending =>
      { runtime.applyServerConfig ending.nextConfig with
        collectorRegistry :=
          mergedRegistry round.usedRegistry ending.response.collectorRegistry runtime.collectorRegistry }

/-! ### The loop beside the task loop -/

/-- The configuration, and the copy that a cycle has taken of it. -/
structure Loop where
  runtime : RuntimeConfig
  snapshot : Option RuntimeConfig := none

inductive Event where
  /-- A cycle begins. -/
  | wake
  /-- A poll for tasks brings a configuration. -/
  | poll (config : AgentConfig)
  /-- The cycle that has begun goes on to its end. -/
  | cycle (cycle : Cycle)

def step (sha256 : Bytes → String) (s : Loop) : Event → Loop
  | .wake => { s with snapshot := some s.runtime }
  | .poll config => { s with runtime := s.runtime.applyServerConfig (some config) }
  | .cycle cycle =>
      match s.snapshot with
      | none => s
      | some snapshot => { runtime := settle s.runtime (runOnce sha256 snapshot cycle), snapshot := none }

/-! ### What a cycle runs and what it leaves -/

variable {sha256 : Bytes → String} {runtime : RuntimeConfig} {cycle : Cycle}

theorem registered_of_collectGpus {host : Host} {config : CollectorConfig} {record : Execution}
    (hrecord : record ∈ (collectGpus sha256 host config).executed) :
    Registered sha256 config.collectorRegistry record := by
  unfold collectGpus at hrecord
  cases hconfig : config.toDirConfig with
  | none =>
      simp only [hconfig] at hrecord
      cases hrecord
  | some dirConfig =>
      simp only [hconfig] at hrecord
      rw [executed_collectViaDirs] at hrecord
      obtain ⟨dir, -, hvisited⟩ := List.mem_flatMap.mp hrecord
      exact (registered_of_visit hvisited).2.2

/-- A cycle runs scripts only of the registry that it goes by. -/
theorem registered_of_runOnce {record : Execution}
    (hrecord : record ∈ (runOnce sha256 runtime cycle).collected.executed) :
    Registered sha256 (runOnce sha256 runtime cycle).usedRegistry record := by
  unfold runOnce at hrecord ⊢
  cases hidentity : identify cycle with
  | none =>
      simp only [hidentity] at hrecord
      cases hrecord
  | some identity =>
      simp only [hidentity] at hrecord ⊢
      exact registered_of_collectGpus hrecord

end LightAI.Heartbeats
