import LightAI.Agent.Heartbeat
import LightAI.Base.Peers
import LightAI.Server.NodeIdentity

/-!
# The heartbeat cycles of several agents

Several agents run their heartbeat cycles against one server, one operation at a time in any order. A request
or its response may be lost, the file with an agent's state may be missing, hold what the server does not
know, or be torn by a write, and a registration that an agent has given up may still arrive. Performed in one
go a cycle is that of the heartbeat loop.
-/

namespace LightAI.SettledAgents

open Agent (RegistryEntry RuntimeConfig)
open Collectors (Bytes Host collectGpus)
open Heartbeats (AgentState Cycle Ending HeartbeatAnswer RegisterResponse RegisteredAgent heartbeatRequest
  toCollectorConfig)
open Nodes (HeartbeatRequest NodesDb RegisterRequest TokenHash agentHeartbeat anyNodeWithToken
  authenticateNode registerNode)
open Server (AgentConfig)

/-! ### A cycle, operation by operation -/

inductive Op where
  | loadState
  | register
  | saveState (state : AgentState)
  | fetchCollectorRegistry (token : String)
  | heartbeat (token : String) (request : HeartbeatRequest)

abbrev Op.Answer : Op → Type
  | loadState => Option (Option AgentState)
  | register => Option RegisterResponse
  | saveState _ => Bool
  | fetchCollectorRegistry _ => Option (List RegistryEntry)
  | heartbeat _ _ => HeartbeatAnswer

abbrev Code := Program Op Op.Answer

/-- What an agent brings into a cycle. -/
structure Sample where
  clientBuilt : Bool := true
  runtime : RuntimeConfig
  host : Host
  sampledAt : Int

def register : Code (Option RegisteredAgent) := do
  let answer : Option RegisterResponse ← .perform Op.register
  match answer with
  | none => pure none
  | some response =>
      let state : AgentState := { nodeId := response.nodeId, agentToken := response.agentToken }
      let saved : Bool ← .perform (Op.saveState state)
      if saved then
        pure (some
          { state
            agentConfig := response.agentConfig.getD
              { configVersion := 0, heartbeatIntervalSecs := response.heartbeatIntervalSecs } })
      else pure none

def usedRegistry (runtime : RuntimeConfig) (token : String) : Code (List RegistryEntry) :=
  if runtime.collectorRoot.isSome then do
    let fetched : Option (List RegistryEntry) ← .perform (Op.fetchCollectorRegistry token)
    pure (fetched.getD runtime.collectorRegistry)
  else pure runtime.collectorRegistry

/-- The cycle after its first heartbeat. -/
def afterHeartbeat (registered : Option AgentConfig) (request : HeartbeatRequest) :
    HeartbeatAnswer → Code (Option Ending)
  | .accepted response => pure (some { registered, response })
  | .failed => pure none
  | .unauthorized => do
      let again ← register
      match again with
      | none => pure none
      | some again =>
          let answer : HeartbeatAnswer ← .perform
            (Op.heartbeat again.state.agentToken { request with nodeId := again.state.nodeId })
          match answer with
          | .accepted response => pure (some { registered := some again.agentConfig, response })
          | _ => pure none

def report (sha256 : Bytes → String) (sample : Sample) (state : AgentState)
    (registered : Option AgentConfig) : Code (Option Ending) := do
  let registry ← usedRegistry sample.runtime state.agentToken
  let collected := collectGpus sha256 sample.host
    { toCollectorConfig sample.runtime with collectorRegistry := registry }
  let request := heartbeatRequest state.nodeId sample.sampledAt registry collected
  let answer : HeartbeatAnswer ← .perform (Op.heartbeat state.agentToken request)
  afterHeartbeat registered request answer

/-- The cycle after it has looked for its state. -/
def afterLoad (sha256 : Bytes → String) (sample : Sample) :
    Option (Option AgentState) → Code (Option Ending)
  | none => pure none
  | some (some state) => report sha256 sample state none
  | some none => do
      let registered ← register
      match registered with
      | none => pure none
      | some registered => report sha256 sample registered.state (some registered.agentConfig)

def runOnce (sha256 : Bytes → String) (sample : Sample) : Code (Option Ending) :=
  if sample.clientBuilt then do
    let loaded : Option (Option AgentState) ← .perform Op.loadState
    afterLoad sha256 sample loaded
  else pure none

/-! ### The cycle as a whole -/

/-- What a cycle gets from outside, handed to it operation by operation. A second registration comes after
the first heartbeat. -/
def scripted (cycle : Cycle) : (op : Op) → Bool → op.Answer × Bool
  | .loadState, sent => (cycle.loaded, sent)
  | .register, sent => ((if sent then cycle.reregistration else cycle.registration).answer, sent)
  | .saveState _, sent => ((if sent then cycle.reregistration else cycle.registration).saved, sent)
  | .fetchCollectorRegistry token, sent => (cycle.fetch token, sent)
  | .heartbeat token request, sent =>
      (if sent then cycle.secondHeartbeat token request else cycle.heartbeat token request, true)

theorem run_register (cycle : Cycle) (sent : Bool) :
    register.run (scripted cycle) sent
      = (Heartbeats.register (if sent then cycle.reregistration else cycle.registration), sent) := by
  cases hanswer : (if sent then cycle.reregistration else cycle.registration).answer with
  | none =>
      simp [register, Heartbeats.register, scripted, hanswer]
  | some response =>
      cases hsaved : (if sent then cycle.reregistration else cycle.registration).saved with
      | false => simp [register, Heartbeats.register, scripted, hanswer, hsaved]
      | true => simp [register, Heartbeats.register, scripted, hanswer, hsaved]

theorem run_report (sha256 : Bytes → String) (cycle : Cycle) (sample : Sample) (state : AgentState)
    (registered : Option AgentConfig) :
    ((report sha256 sample state registered).run (scripted cycle) false).1
      = Heartbeats.report cycle state registered
          (heartbeatRequest state.nodeId sample.sampledAt
            ((Heartbeats.fetchRegistry sample.runtime cycle state).getD sample.runtime.collectorRegistry)
            (collectGpus sha256 sample.host
              { toCollectorConfig sample.runtime with
                collectorRegistry := (Heartbeats.fetchRegistry sample.runtime cycle state).getD
                  sample.runtime.collectorRegistry })) := by
  have hregistry : (usedRegistry sample.runtime state.agentToken).run (scripted cycle) false
      = ((Heartbeats.fetchRegistry sample.runtime cycle state).getD sample.runtime.collectorRegistry,
          false) := by
    unfold usedRegistry Heartbeats.fetchRegistry
    split
    · rfl
    · rfl
  unfold report
  rw [Program.run_bind, hregistry]
  dsimp only
  generalize heartbeatRequest state.nodeId sample.sampledAt _ _ = request
  rw [Program.perform_bind, Program.run_call]
  unfold Heartbeats.report
  cases hanswer : cycle.heartbeat state.agentToken request with
  | accepted response => simp [afterHeartbeat, scripted, hanswer]
  | failed => simp [afterHeartbeat, scripted, hanswer]
  | unauthorized =>
      simp only [scripted, hanswer, Bool.false_eq_true, if_false, afterHeartbeat]
      rw [Program.run_bind, run_register]
      simp only [if_true]
      cases Heartbeats.register cycle.reregistration with
      | none => rfl
      | some again =>
          simp only [Program.perform_bind, Program.run_call, scripted, if_true]
          cases cycle.secondHeartbeat again.state.agentToken
            { request with nodeId := again.state.nodeId } with
          | accepted response => rfl
          | failed => rfl
          | unauthorized => rfl

/-- Performed in one go, the cycle comes to the end that it has as a whole. -/
theorem run_runOnce (sha256 : Bytes → String) (runtime : RuntimeConfig) (cycle : Cycle) :
    ((runOnce sha256
        { clientBuilt := cycle.clientBuilt, runtime, host := cycle.host, sampledAt := cycle.sampledAt }).run
          (scripted cycle) false).1
      = (Heartbeats.runOnce sha256 runtime cycle).ending := by
  unfold runOnce Heartbeats.runOnce Heartbeats.identify
  cases hbuilt : cycle.clientBuilt with
  | false => rfl
  | true =>
      simp only [Bool.not_true, Bool.false_eq_true, if_false, if_true, Program.perform_bind,
        Program.run_call]
      cases hloaded : cycle.loaded with
      | none => simp [scripted, hloaded, afterLoad]
      | some loaded =>
          cases loaded with
          | some state =>
              simp only [scripted, hloaded, afterLoad]
              rw [run_report]
          | none =>
              simp only [scripted, hloaded, afterLoad]
              rw [Program.run_bind, run_register]
              simp only [Bool.false_eq_true, if_false]
              cases Heartbeats.register cycle.registration with
              | none => rfl
              | some registered =>
                  simp only [Option.map_some]
                  rw [run_report]

/-! ### The agents and their server -/

/-- The file with the state of an agent. -/
inductive StateFile where
  | absent
  | unreadable
  | holds (state : AgentState)
  deriving DecidableEq

/-- What becomes of a write to the file. One that fails may have left the file as it was, torn, or whole. -/
inductive Saved where
  | stored
  | refused
  | torn
  | unconfirmed
  deriving DecidableEq

/-- What an operation meets: whether the file can be read, whether a request and its response arrive, what
chance gives a registration, and what the server's other tables add to a response. -/
structure Conditions where
  readable : Bool := true
  arrives : Bool := true
  returns : Bool := true
  saved : Saved := .stored
  token : String := ""
  newId : String := ""
  retryId : String := ""
  agentConfig : Option AgentConfig := none
  collectorRegistry : List RegistryEntry := []

/-- Nothing is lost and no file operation fails. -/
def Conditions.Kind (conditions : Conditions) : Prop :=
  conditions.readable = true ∧ conditions.arrives = true ∧ conditions.returns = true ∧
    conditions.saved = .stored

def Conditions.registration (conditions : Conditions) (request : RegisterRequest) : Nodes.Registration where
  request
  token := conditions.token
  newId := conditions.newId
  retryId := conditions.retryId

structure Site (ι : Type) where
  nodes : NodesDb
  files : ι → StateFile

/-- What happens beside the cycles. A registration may arrive that its agent has given up, or that another
agent sends under the same name. -/
inductive Environment (ι : Type) where
  | tick (clock : Int)
  | register (agent : ι) (conditions : Conditions)

section Fleet

variable {ι : Type} [DecidableEq ι] (auth : TokenHash) (agents : ι → RegisterRequest)

def served (agent : ι) (conditions : Conditions) (s : Site ι) : Except String String × NodesDb :=
  (registerNode (conditions.registration (agents agent))).run (Nodes.Stmt.exec auth) s.nodes

def exec (agent : ι) (conditions : Conditions) : (op : Op) → Site ι → op.Answer × Site ι
  | .loadState, s =>
      match s.files agent with
      | .absent => (if conditions.readable then some none else none, s)
      | .unreadable => (none, s)
      | .holds state => (if conditions.readable then some (some state) else none, s)
  | .register, s =>
      if conditions.arrives then
        match served auth agents agent conditions s with
        | (.ok nodeId, nodes) =>
            (if conditions.returns then
                some { nodeId, agentToken := conditions.token, agentConfig := conditions.agentConfig }
              else none,
              { s with nodes })
        | (.error _, nodes) => (none, { s with nodes })
      else (none, s)
  | .saveState state, s =>
      match conditions.saved with
      | .stored => (true, { s with files := Function.update s.files agent (.holds state) })
      | .refused => (false, s)
      | .torn => (false, { s with files := Function.update s.files agent .unreadable })
      | .unconfirmed => (false, { s with files := Function.update s.files agent (.holds state) })
  | .fetchCollectorRegistry token, s =>
      (if conditions.arrives && anyNodeWithToken auth s.nodes token && conditions.returns then
          some conditions.collectorRegistry
        else none,
        s)
  | .heartbeat token request, s =>
      if conditions.arrives then
        let (accepted, nodes) := (agentHeartbeat token request).run (Nodes.Stmt.exec auth) s.nodes
        (if conditions.returns then
            if accepted then
              .accepted
                { agentConfig := conditions.agentConfig, collectorRegistry := conditions.collectorRegistry }
            else .unauthorized
          else .failed,
          { s with nodes })
      else (.failed, s)

def act : Environment ι → Site ι → Site ι
  | .tick clock, s => { s with nodes := { s.nodes with clock } }
  | .register agent conditions, s => { s with nodes := (served auth agents agent conditions s).2 }

def fleet (sha256 : Bytes → String) :
    Peers.System ι Sample (Environment ι) Conditions Op Op.Answer (Site ι) (Option Ending) where
  start := runOnce sha256
  exec := exec auth agents
  act := act auth agents

abbrev Fleet (ι : Type) := Peers.Config ι Op Op.Answer (Site ι) (Option Ending)

abbrev Event (ι : Type) := Peers.Event ι Sample (Environment ι) Conditions

/-- No node is known, and the agents have whatever files there are. -/
def start (files : ι → StateFile) (clock : Int) : Fleet ι :=
  ⟨{ nodes := { clock }, files }, fun _ => none⟩

/-! ### What is asked of the runs and what comes of them -/

/-- No two agents share a name or a host name. -/
structure DistinctAgents : Prop where
  names : Function.Injective fun agent => (agents agent).name
  hostnames : Function.Injective fun agent => (agents agent).hostname

/-- The id is neither that of a node nor in a file that was there at the start. -/
def Unused (files : ι → StateFile) (s : Site ι) (id : String) : Prop :=
  s.nodes.nodes.find? id = none ∧ ∀ agent state, files agent = .holds state → state.nodeId ≠ id

def Conditions.Fresh (files : ι → StateFile) (s : Site ι) (conditions : Conditions) : Prop :=
  Unused files s conditions.newId ∧ Unused files s conditions.retryId

/-- The ids that chance gives are new. -/
def FreshIds (files : ι → StateFile) (c : Fleet ι) : Event ι → Prop
  | .step _ conditions => conditions.Fresh files c.shared
  | .env (.register _ conditions) => conditions.Fresh files c.shared
  | _ => True

/-- The event is no registration under the agent's name beside its own cycles. -/
def Alone (agent : ι) : Event ι → Prop
  | .env (.register other _) => other ≠ agent
  | _ => True

/-- Nothing that the agent does in the event fails. -/
def Smooth (agent : ι) : Event ι → Prop
  | .step other conditions => other = agent → conditions.Kind
  | _ => True

/-- The server accepts the token in the agent's file for the node in it. -/
def LoggedIn (agent : ι) (s : Site ι) : Prop :=
  ∃ state, s.files agent = .holds state ∧
    authenticateNode auth s.nodes state.nodeId state.agentToken = true

/-- The server has heard the agent: its row has the time of the heartbeat. -/
def Heard (agent : ι) (sampledAt : Int) (s : Site ι) : Prop :=
  ∃ row ∈ s.nodes.nodes.rows, row.name = (agents agent).name ∧ row.hostname = (agents agent).hostname ∧
    row.lastHeartbeatAt = some sampledAt

/-- What the agent performs in the event is no registration, and no heartbeat that the server refuses. -/
def Unrefused (agent : ι) (c : Fleet ι) (e : Event ι) : Prop :=
  ∀ conditions op next, e = .step agent conditions → c.running agent = some (.call op next) →
    op ≠ .register ∧ ∀ token request, op = .heartbeat token request →
      authenticateNode auth c.shared.nodes request.nodeId token = true

end Fleet

end LightAI.SettledAgents
