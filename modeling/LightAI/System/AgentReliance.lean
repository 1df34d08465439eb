import LightAI.System.NodeOwners

/-!
# What agents rely on

An agent relies on its file and on the nodes whose ids it holds, which nobody else writes. How far this goes
depends on its mode. What an agent performs leaves every other agent what that one relies on.
-/

namespace LightAI.SettledAgents

open Heartbeats (AgentState Ending HeartbeatAnswer RegisteredAgent)
open Nodes (HeartbeatRequest NodesDb RegisterRequest SameIdentities TokenHash authenticateNode)
open Peers (Reliance)

/-! ### What an agent relies on -/

/-- How it goes for an agent: anything may happen to it, or a cycle meets with nothing but what it should, or
nobody else registers under its name and its token is accepted. -/
inductive Mode where
  | rough
  | kind (sampledAt : Int)
  | settled

section Reliance

variable {ι : Type} (auth : TokenHash) (agents : ι → RegisterRequest)
  (files : ι → StateFile)

/-- What the others leave of an agent's own. -/
structure Others (mode : Mode) (agent : ι) (s t : Site ι) : Prop where
  before : Inv agents files s
  after : Inv agents files t
  file : t.files agent = s.files agent
  owned : ∀ id, Own agents files agent s.nodes id → Own agents files agent t.nodes id
  same : mode ≠ .rough → ∀ id, Own agents files agent s.nodes id →
    t.nodes.nodes.find? id = s.nodes.nodes.find? id

def reliance (mode : Mode) (agent : ι) : Reliance Conditions Op (Site ι) where
  conditions conditions s := conditions.Fresh files s ∧ ∀ sampledAt, mode = .kind sampledAt → conditions.Kind
  others := Others agents files mode agent
  allowed s op :=
    match op with
    | .register => mode ≠ .settled
    | .saveState state => mode ≠ .settled ∧ Own agents files agent s.nodes state.nodeId
    | .heartbeat token request =>
        Own agents files agent s.nodes request.nodeId ∧
          (mode = .settled → authenticateNode auth s.nodes request.nodeId token = true)
    | _ => True

/-- How a cycle ends. -/
def Ends (mode : Mode) (agent : ι) (s : Site ι) (outcome : Option Ending) : Prop :=
  ∀ sampledAt, mode = .kind sampledAt →
    outcome.isSome = true ∧ LoggedIn auth agent s ∧ Heard agents agent sampledAt s

variable {auth} {agents} {files} {mode : Mode} {agent : ι} {s t : Site ι}

theorem Others.refl (h : Inv agents files s) : Others agents files mode agent s s where
  before := h
  after := h
  file := rfl
  owned _ hown := hown
  same _ _ _ := rfl

theorem Others.trans {u : Site ι} (h : Others agents files mode agent s t)
    (h' : Others agents files mode agent t u) : Others agents files mode agent s u where
  before := h.before
  after := h'.after
  file := h'.file.trans h.file
  owned id hown := h'.owned id (h.owned id hown)
  same halone id hown := (h'.same halone id (h.owned id hown)).trans (h.same halone id hown)

theorem Others.accepted (h : Others agents files mode agent s t) (halone : mode ≠ .rough)
    {state : AgentState} (hholds : s.files agent = .holds state)
    (haccepted : authenticateNode auth s.nodes state.nodeId state.agentToken = true) :
    authenticateNode auth t.nodes state.nodeId state.agentToken = true := by
  rw [authenticateNode_congr (h.same halone _ (h.before.owned agent state hholds))]
  exact haccepted

theorem Others.loggedIn (h : Others agents files mode agent s t) (halone : mode ≠ .rough)
    (hlogged : LoggedIn auth agent s) : LoggedIn auth agent t := by
  obtain ⟨state, hholds, haccepted⟩ := hlogged
  exact ⟨state, h.file.trans hholds, h.accepted halone hholds haccepted⟩

theorem Others.heard (h : Others agents files mode agent s t) (halone : mode ≠ .rough) {sampledAt : Int}
    (hheard : Heard agents agent sampledAt s) : Heard agents agent sampledAt t := by
  obtain ⟨row, hrow, hname, hhost, hlast⟩ := hheard
  have hsame := h.same halone row.id (own_of_name hrow hname)
  rw [Table.find?_of_mem hrow] at hsame
  exact ⟨row, Table.find?_mem hsame, hname, hhost, hlast⟩

theorem Others.ends (h : Others agents files mode agent s t) {outcome : Option Ending}
    (hends : Ends auth agents mode agent s outcome) : Ends auth agents mode agent t outcome := by
  intro sampledAt hmode
  obtain ⟨hsome, hlogged, hheard⟩ := hends sampledAt hmode
  have halone : mode ≠ .rough := by
    rw [hmode]
    intro hrough
    cases hrough
  exact ⟨hsome, h.loggedIn halone hlogged, h.heard halone hheard⟩

theorem others_registers {token nodeId : String} {nodes : NodesDb} (h : Inv agents files s)
    (hregisters : Registers auth agents files agent token nodeId s nodes) {other : ι} (hne : other ≠ agent) :
    Others agents files mode other s { s with nodes } where
  before := h
  after := hregisters.inv
  file := rfl
  owned id hown := hregisters.owned other id hown
  same _ id hown := hregisters.same other hne id hown

theorem others_recordHeartbeat (hagents : DistinctAgents agents) (h : Inv agents files s)
    {request : HeartbeatRequest} (hown : Own agents files agent s.nodes request.nodeId) {other : ι}
    (hne : other ≠ agent) :
    Others agents files mode other s { s with nodes := Nodes.recordHeartbeat request s.nodes } where
  before := h
  after := h.kept (Nodes.sameIdentities_recordHeartbeat request s.nodes)
  file := rfl
  owned _ howned := howned.kept (Nodes.sameIdentities_recordHeartbeat request s.nodes)
  same _ _ howned := same_recordHeartbeat hagents hown hne howned

/-- What an allowed operation leaves to the agent itself and to the others. -/
structure Leaves (auth : TokenHash) (agents : ι → RegisterRequest) (files : ι → StateFile) (mode : Mode)
    (agent : ι) (s t : Site ι) : Prop where
  inv : Inv agents files t
  others : ∀ mode' other, other ≠ agent → Others agents files mode' other s t
  settled : mode = .settled → LoggedIn auth agent s → LoggedIn auth agent t

theorem Leaves.refl (h : Inv agents files s) : Leaves auth agents files mode agent s s where
  inv := h
  others _ _ _ := .refl h
  settled _ hlogged := hlogged

/-- What a registration ends with. -/
structure Admitted (auth : TokenHash) (agents : ι → RegisterRequest) (files : ι → StateFile) (mode : Mode)
    (agent : ι) (s : Site ι) (outcome : Option RegisteredAgent) : Prop where
  inv : Inv agents files s
  some_of_kind : ∀ sampledAt, mode = .kind sampledAt → outcome.isSome = true
  holds : ∀ registered, outcome = some registered → s.files agent = .holds registered.state
  accepted : mode ≠ .rough → ∀ registered, outcome = some registered →
    authenticateNode auth s.nodes registered.state.nodeId registered.state.agentToken = true

theorem admitted_none {s : Site ι} (h : Inv agents files s)
    (hrough : ∀ sampledAt, mode ≠ .kind sampledAt) :
    Admitted auth agents files mode agent s none where
  inv := h
  some_of_kind sampledAt hmode := absurd hmode (hrough sampledAt)
  holds registered hsome := by cases hsome
  accepted _ registered hsome := by cases hsome

theorem ends_other (hother : ∀ sampledAt, mode ≠ .kind sampledAt) (outcome : Option Ending) :
    Ends auth agents mode agent s outcome :=
  fun sampledAt hmode => absurd hmode (hother sampledAt)

/-- The agent knows its state, and if it is settled the server accepts it. -/
structure Knows (auth : TokenHash) (agents : ι → RegisterRequest) (files : ι → StateFile) (mode : Mode)
    (agent : ι) (state : AgentState) (s : Site ι) : Prop where
  inv : Inv agents files s
  holds : s.files agent = .holds state
  accepted : mode = .settled → authenticateNode auth s.nodes state.nodeId state.agentToken = true

theorem Knows.moved {s t : Site ι} {state : AgentState} (h : Knows auth agents files mode agent state s)
    (hothers : Others agents files mode agent s t) : Knows auth agents files mode agent state t where
  inv := hothers.after
  holds := hothers.file.trans h.holds
  accepted hsettled := by
    refine hothers.accepted ?_ h.holds (h.accepted hsettled)
    rw [hsettled]
    exact Mode.noConfusion

/-- An accepted heartbeat leaves the agent logged in and heard. -/
theorem heard_of_accepted (hagents : DistinctAgents agents) (h : Inv agents files s)
    {state : AgentState} (hholds : s.files agent = .holds state)
    (haccepted : authenticateNode auth s.nodes state.nodeId state.agentToken = true)
    {request : HeartbeatRequest} (hnode : request.nodeId = state.nodeId) :
    LoggedIn auth agent { s with nodes := Nodes.recordHeartbeat request s.nodes } ∧
      Heard agents agent request.sampledAt { s with nodes := Nodes.recordHeartbeat request s.nodes } := by
  constructor
  · exact ⟨state, hholds, (authenticateNode_recordHeartbeat request s.nodes _ _).trans haccepted⟩
  · obtain ⟨row, hrow, -⟩ := Nodes.authenticateNode_eq_true.mp haccepted
    have hname := (h.owned agent state hholds).mine row hrow
    have hhost := h.named_mine hagents (Table.find?_mem hrow) hname
    have hheard : (Nodes.recordHeartbeat request s.nodes).nodes.find? state.nodeId
        = some (row.heard s.nodes.clock request.sampledAt) := by
      rw [find?_recordHeartbeat, if_pos hnode.symm, hrow]
      rfl
    exact ⟨_, Table.find?_mem hheard, hname, hhost, rfl⟩

/-! ### What the modes ask of a run -/

/-- What the modes of the agents ask of an event. -/
structure Permits (files : ι → StateFile) (mode : ι → Mode) (c : Fleet ι) (e : Event ι) : Prop where
  fresh : FreshIds files c e
  alone : ∀ agent, mode agent ≠ .rough → Alone agent e
  kind : ∀ agent sampledAt, mode agent = .kind sampledAt → Smooth agent e ∧ e.Leaves agent

structure Shared (auth : TokenHash) (agents : ι → RegisterRequest) (files : ι → StateFile)
    (mode : ι → Mode) (s : Site ι) : Prop where
  inv : Inv agents files s
  settled : ∀ agent, mode agent = .settled → LoggedIn auth agent s

theorem shared_of_others {mode : ι → Mode} (h : Shared auth agents files mode s)
    (hinv : Inv agents files t) (hothers : ∀ agent, mode agent = .settled →
      Others agents files (mode agent) agent s t) : Shared auth agents files mode t where
  inv := hinv
  settled agent hsettled := by
    refine (hothers agent hsettled).loggedIn ?_ (h.settled agent hsettled)
    rw [hsettled]
    exact Mode.noConfusion

variable (auth) in
theorem others_act (hagents : DistinctAgents agents) {mode : ι → Mode} {c : Fleet ι}
    {action : Environment ι} (h : Inv agents files c.shared)
    (hok : Permits files mode c (.env action)) : Inv agents files (act auth agents action c.shared) ∧ ∀ party,
      Others agents files (mode party) party c.shared (act auth agents action c.shared) := by
  cases action with
  | tick clock =>
      have hsame : SameIdentities c.shared.nodes { c.shared.nodes with clock } :=
        Nodes.sameIdentities_of_nodes rfl
      refine ⟨h.kept hsame, fun party => ?_⟩
      exact
        { before := h
          after := h.kept hsame
          file := rfl
          owned := fun id hown => hown.kept hsame
          same := fun _ _ _ => rfl }
  | register agent conditions =>
      obtain ⟨nodeId, nodes, hserved, hcommitted, hunused⟩ := served_spec auth hagents h agent hok.fresh
      have hregisters := registers_of_committed hagents h hcommitted hunused
      have hact : act auth agents (.register agent conditions) c.shared = { c.shared with nodes } := by
        unfold act
        dsimp only
        rw [hserved]
      rw [hact]
      refine ⟨hregisters.inv, fun party => ?_⟩
      exact
        { before := h
          after := hregisters.inv
          file := rfl
          owned := hregisters.owned party
          same := fun halone => hregisters.same party (Ne.symm (hok.alone party halone)) }

end Reliance

/-! ### What an operation does -/

section Operations

variable {ι : Type} [DecidableEq ι] {auth : TokenHash} {agents : ι → RegisterRequest}
  {files : ι → StateFile} {mode : Mode} {agent : ι} {s : Site ι}

theorem exec_heartbeat_accepted (conditions : Conditions) {token : String} {request : HeartbeatRequest}
    (h : authenticateNode auth s.nodes request.nodeId token = true) :
    exec auth agents agent conditions (.heartbeat token request) s
      = if conditions.arrives then
          (if conditions.returns then
              .accepted
                { agentConfig := conditions.agentConfig, collectorRegistry := conditions.collectorRegistry }
            else .failed,
            { s with nodes := Nodes.recordHeartbeat request s.nodes })
        else (.failed, s) := by
  unfold exec
  dsimp only
  rw [run_agentHeartbeat, if_pos h]
  rfl

theorem exec_heartbeat_refused (conditions : Conditions) {token : String} {request : HeartbeatRequest}
    (h : authenticateNode auth s.nodes request.nodeId token = false) :
    exec auth agents agent conditions (.heartbeat token request) s
      = (if conditions.arrives && conditions.returns then .unauthorized else .failed, s) := by
  have hno : ¬ authenticateNode auth s.nodes request.nodeId token = true := by
    rw [h]
    exact Bool.false_ne_true
  unfold exec
  dsimp only
  rw [run_agentHeartbeat, if_neg hno]
  cases conditions.arrives with
  | false => rfl
  | true => rfl

variable (auth agent) in
theorem exec_register (hagents : DistinctAgents agents) (h : Inv agents files s) {conditions : Conditions}
    (hfresh : conditions.Fresh files s) (harrives : conditions.arrives = true) :
    ∃ nodeId nodes, Registers auth agents files agent conditions.token nodeId s nodes ∧
      exec auth agents agent conditions .register s
        = (if conditions.returns then
              some { nodeId, agentToken := conditions.token, agentConfig := conditions.agentConfig }
            else none,
          { s with nodes }) := by
  obtain ⟨nodeId, nodes, hserved, hcommitted, hunused⟩ := served_spec auth hagents h agent hfresh
  refine ⟨nodeId, nodes, registers_of_committed hagents h hcommitted hunused, ?_⟩
  simp only [exec, harrives, if_true, hserved]

theorem exec_register_lost {conditions : Conditions} (hlost : conditions.arrives = false) :
    exec auth agents agent conditions .register s = (none, s) := by
  simp only [exec, hlost, Bool.false_eq_true, if_false]

theorem exec_loadState_snd (conditions : Conditions) :
    (exec auth agents agent conditions .loadState s).2 = s := by
  simp only [exec]
  cases s.files agent with
  | absent => rfl
  | unreadable => rfl
  | holds state => rfl

theorem exec_loadState_holds {conditions : Conditions} {state : AgentState}
    (hholds : s.files agent = .holds state) :
    (exec auth agents agent conditions .loadState s).1
      = if conditions.readable then some (some state) else none := by
  simp only [exec, hholds]

theorem Inv.filed (h : Inv agents files s) {file : StateFile}
    (hown : ∀ state, file = .holds state → Own agents files agent s.nodes state.nodeId) :
    Inv agents files { s with files := Function.update s.files agent file } where
  distinct := h.distinct
  named := h.named
  unclaimed := h.unclaimed
  owned other state hholds := by
    dsimp only at hholds
    by_cases hsame : other = agent
    · subst hsame
      rw [Function.update_self] at hholds
      exact hown state hholds
    · rw [Function.update_of_ne hsame] at hholds
      exact h.owned other state hholds

theorem others_filed (h : Inv agents files s) {file : StateFile}
    (hown : ∀ state, file = .holds state → Own agents files agent s.nodes state.nodeId) {other : ι}
    (hne : other ≠ agent) :
    Others agents files mode other s { s with files := Function.update s.files agent file } where
  before := h
  after := h.filed hown
  file := Function.update_of_ne hne _ _
  owned _ howned := howned
  same _ _ _ := rfl

theorem leaves_exec (hagents : DistinctAgents agents) (h : Inv agents files s) {conditions : Conditions}
    (hfresh : conditions.Fresh files s) {op : Op}
    (hallowed : (reliance auth agents files mode agent).allowed s op) :
    Leaves auth agents files mode agent s (exec auth agents agent conditions op s).2 := by
  cases op with
  | loadState =>
      rw [exec_loadState_snd]
      exact .refl h
  | fetchCollectorRegistry token => exact .refl h
  | register =>
      cases harrives : conditions.arrives with
      | false =>
          rw [exec_register_lost harrives]
          exact .refl h
      | true =>
          obtain ⟨nodeId, nodes, hregisters, hexec⟩ :=
            exec_register auth agent hagents h hfresh harrives
          rw [hexec]
          exact
            { inv := hregisters.inv
              others := fun mode' other hne => others_registers h hregisters hne
              settled := fun hmode => absurd hmode hallowed }
  | saveState state =>
      have hfiled : ∀ file, (∀ state', file = .holds state' →
            Own agents files agent s.nodes state'.nodeId) →
          Leaves auth agents files mode agent s
            { s with files := Function.update s.files agent file } := by
        intro file hown
        exact
          { inv := h.filed hown
            others := fun mode' other hne => others_filed h hown hne
            settled := fun hmode => absurd hmode hallowed.1 }
      have hstate : ∀ state', StateFile.holds state = .holds state' →
          Own agents files agent s.nodes state'.nodeId := by
        intro state' hsame
        rw [← StateFile.holds.inj hsame]
        exact hallowed.2
      simp only [exec]
      cases conditions.saved with
      | stored => exact hfiled _ hstate
      | refused => exact .refl h
      | torn =>
          refine hfiled _ fun state' hsame => ?_
          cases hsame
      | unconfirmed => exact hfiled _ hstate
  | heartbeat token request =>
      cases haccepted : authenticateNode auth s.nodes request.nodeId token with
      | false =>
          rw [exec_heartbeat_refused conditions haccepted]
          exact .refl h
      | true =>
          rw [exec_heartbeat_accepted conditions haccepted]
          cases conditions.arrives with
          | false => exact .refl h
          | true =>
              exact
                { inv := h.kept (Nodes.sameIdentities_recordHeartbeat request s.nodes)
                  others := fun mode' other hne => others_recordHeartbeat hagents h hallowed.1 hne
                  settled := fun _ hlogged => by
                    obtain ⟨state, hholds, hknown⟩ := hlogged
                    refine ⟨state, hholds, ?_⟩
                    exact (authenticateNode_recordHeartbeat request s.nodes _ _).trans hknown }

end Operations

end LightAI.SettledAgents
