import LightAI.Base.Trace
import LightAI.Server.Policies

/-!
# Configurations on their way to the agents

Policies are saved one after the other. In between, `effective_agent_config` puts configurations
together for the nodes, and whatever has been put together for a node may reach its agent at any later
time, any number of times and in any order.
-/

namespace LightAI.ConfigSync

open Policies
open Server (AgentConfig AgentConfigPolicy agentConfigVersion)
open Agent (RuntimeConfig CollectorSettings ConfigContent sent)

/-- An agent and all that has reached it. -/
structure AgentSide where
  runtime : RuntimeConfig
  delivered : List AgentConfig := []

structure State where
  db : PolicyDb
  /-- The configurations put together so far, each with its node. -/
  produced : List (String × AgentConfig) := []
  agents : String → AgentSide

inductive Event where
  | tick (clock : Int)
  | saveGlobal (policy : AgentConfigPolicy)
  | saveNode (nodeId : String) (policy : AgentConfigPolicy)
  | produce (nodeId : String)
  | deliver (index : Nat)

def State.save (s : State) (scope nodeId : String) (policy : AgentConfigPolicy) : State :=
  { s with db := ((saveAgentConfigPolicy scope nodeId policy).run Stmt.exec s.db).2 }

def AgentSide.receive (side : AgentSide) (config : AgentConfig) : AgentSide where
  runtime := side.runtime.applyServerConfig (some config)
  delivered := side.delivered ++ [config]

def step (s : State) : Event → State
  | .tick clock => { s with db := { s.db with clock } }
  | .saveGlobal policy => s.save "global" "" policy
  | .saveNode nodeId policy => s.save "node" nodeId policy
  | .produce nodeId =>
      let result := (effectiveAgentConfig nodeId).run Stmt.exec s.db
      { s with db := result.2, produced := s.produced ++ [(nodeId, result.1)] }
  | .deliver index =>
      match s.produced[index]? with
      | none => s
      | some (nodeId, config) =>
          { s with
            agents := Function.update s.agents nodeId ((s.agents nodeId).receive config) }

/-- No policy has been saved, and every agent has just read its configuration file. -/
def start (clock : Int) (settings : String → CollectorSettings) : State where
  db := { clock }
  agents nodeId := { runtime := RuntimeConfig.fromConfig (settings nodeId) }

/-- What has been put together for a node. -/
def State.producedFor (s : State) (nodeId : String) : List (Stamped Int ConfigContent) :=
  s.produced.filterMap fun entry => if entry.1 = nodeId then some (sent entry.2) else none

theorem mem_producedFor {s : State} {nodeId : String} {stamped : Stamped Int ConfigContent} :
    stamped ∈ s.producedFor nodeId ↔ ∃ config, (nodeId, config) ∈ s.produced ∧ sent config = stamped := by
  unfold State.producedFor
  rw [List.mem_filterMap]
  constructor
  · rintro ⟨⟨node, config⟩, hmem, hsome⟩
    by_cases hnode : node = nodeId
    · subst hnode
      exact ⟨config, hmem, by simpa using hsome⟩
    · simp [hnode] at hsome
  · rintro ⟨config, hmem, hsent⟩
    exact ⟨(nodeId, config), hmem, by simpa using hsent⟩

/-! ### The invariant -/

/-- An agent holds the newest of what has reached it, or nothing has yet. -/
def Keeps (side : AgentSide) : Prop :=
  (side.delivered = [] ∧ side.runtime.held.version < agentConfigVersion) ∨
    Stamped.Newest side.runtime.held (side.delivered.map sent)

structure Inv (s : State) : Prop where
  within : Within (freshVersion s.db.agentConfigPolicies) s.db.agentConfigPolicies
  read : ∀ nodeId, Stamped.ReadOff (current s.db.agentConfigPolicies nodeId) (s.producedFor nodeId)
  builtIn : ∀ nodeId, ∀ stamped ∈ s.producedFor nodeId, agentConfigVersion ≤ stamped.version
  delivered : ∀ nodeId, ∀ config ∈ (s.agents nodeId).delivered, sent config ∈ s.producedFor nodeId
  keeps : ∀ nodeId, Keeps (s.agents nodeId)

theorem inv_start (clock : Int) (settings : String → CollectorSettings) :
    Inv (start clock settings) where
  within := within_empty.fresh
  read nodeId := Stamped.readOff_nil _
  builtIn nodeId stamped hmem := by simp [State.producedFor, start] at hmem
  delivered nodeId config hmem := by simp [start] at hmem
  keeps nodeId := by
    left
    refine ⟨rfl, ?_⟩
    change (0 : Int) < agentConfigVersion
    decide

theorem inv_save {s : State} (h : Inv s) (scope nodeId : String) (policy : AgentConfigPolicy) :
    Inv (s.save scope nodeId policy) := by
  cases hvalid : Users.validatePolicy policy with
  | error message =>
      have hsame : s.save scope nodeId policy = s := by
        unfold State.save
        rw [run_saveAgentConfigPolicy_error scope nodeId policy s.db hvalid]
      rwa [hsame]
  | ok _ =>
      unfold State.save
      rw [run_saveAgentConfigPolicy scope nodeId policy s.db hvalid]
      have hnext : Within _ (upsertPolicy s.db.agentConfigPolicies scope nodeId policy
          (freshVersion s.db.agentConfigPolicies) s.db.clock) := h.within.upsertPolicy le_rfl
      exact
        { within := hnext.fresh
          read := fun node => (h.read node).advance (current_advances h.within le_rfl node)
          builtIn := h.builtIn
          delivered := h.delivered
          keeps := h.keeps }

theorem inv_produce {s : State} (h : Inv s) (nodeId : String) : Inv (step s (.produce nodeId)) := by
  obtain ⟨hsent, hdb⟩ := run_effectiveAgentConfig nodeId s.db
  have hfor : ∀ node, (step s (.produce nodeId)).producedFor node
      = s.producedFor node
        ++ if nodeId = node then [current s.db.agentConfigPolicies node] else [] := by
    intro node
    simp only [step, State.producedFor, List.filterMap_append]
    by_cases hnode : nodeId = node
    · subst hnode
      rw [← hsent]
      simp
    · simp [hnode]
  have hgrows : ∀ node, ∀ stamped ∈ s.producedFor node,
      stamped ∈ (step s (.produce nodeId)).producedFor node := by
    intro node stamped hmem
    rw [hfor]
    exact List.mem_append_left _ hmem
  refine ⟨?_, ?_, ?_, ?_, h.keeps⟩
  · exact h.within
  · intro node
    rw [hfor]
    by_cases hnode : nodeId = node
    · rw [if_pos hnode]
      exact (h.read node).read
    · rw [if_neg hnode, List.append_nil]
      exact h.read node
  · intro node stamped hmem
    rw [hfor] at hmem
    rcases List.mem_append.mp hmem with hmem | hmem
    · exact h.builtIn node stamped hmem
    · split at hmem
      · rw [List.mem_singleton.mp hmem]
        exact effectiveVersion_ge _ _
      · simp at hmem
  · intro node config hmem
    exact hgrows node _ (h.delivered node config hmem)

theorem keeps_receive {side : AgentSide} (h : Keeps side) {config : AgentConfig}
    (hversion : agentConfigVersion ≤ config.configVersion) : Keeps (side.receive config) := by
  right
  have hheld : (side.receive config).runtime.held = side.runtime.held.newest (sent config) :=
    Agent.held_applyServerConfig side.runtime config
  have hdelivered : (side.receive config).delivered.map sent
      = side.delivered.map sent ++ [sent config] := by
    simp [AgentSide.receive]
  rw [hheld, hdelivered]
  rcases h with ⟨hnone, hfresh⟩ | hnewest
  · rw [hnone]
    exact Stamped.newest_first (hfresh.le.trans hversion)
  · exact hnewest.newest (sent config)

theorem inv_deliver {s : State} (h : Inv s) (index : Nat) : Inv (step s (.deliver index)) := by
  cases hget : s.produced[index]? with
  | none =>
      simp only [step, hget]
      exact h
  | some entry =>
      obtain ⟨nodeId, config⟩ := entry
      have hmem : sent config ∈ s.producedFor nodeId :=
        mem_producedFor.mpr ⟨config, List.mem_of_getElem? hget, rfl⟩
      simp only [step, hget]
      refine ⟨h.within, h.read, h.builtIn, ?_, ?_⟩
      · intro node received hreceived
        dsimp only at hreceived
        by_cases hnode : node = nodeId
        · subst hnode
          rw [Function.update_self] at hreceived
          rcases List.mem_append.mp hreceived with hreceived | hreceived
          · exact h.delivered node received hreceived
          · rw [List.mem_singleton.mp hreceived]
            exact hmem
        · rw [Function.update_of_ne hnode] at hreceived
          exact h.delivered node received hreceived
      · intro node
        dsimp only
        by_cases hnode : node = nodeId
        · subst hnode
          rw [Function.update_self]
          exact keeps_receive (h.keeps node) (h.builtIn node _ hmem)
        · rw [Function.update_of_ne hnode]
          exact h.keeps node

theorem inv_step (s : State) (e : Event) (h : Inv s) : Inv (step s e) := by
  cases e with
  | tick clock => exact ⟨h.within, h.read, h.builtIn, h.delivered, h.keeps⟩
  | saveGlobal policy => exact inv_save h "global" "" policy
  | saveNode nodeId policy => exact inv_save h "node" nodeId policy
  | produce nodeId => exact inv_produce h nodeId
  | deliver index => exact inv_deliver h index

theorem inv_run (clock : Int) (settings : String → CollectorSettings) (events : List Event) :
    Inv (Trace.run step (start clock settings) events) :=
  Trace.run_invariant (fun s e h (_ : True) => inv_step s e h) (inv_start clock settings)
    (Trace.along_of_forall (fun _ _ => trivial) _ _)

/-! ### The result -/

/-- One content to a node and a version. -/
def Determined (produced : List (String × AgentConfig)) : Prop :=
  ∀ nodeId config other, (nodeId, config) ∈ produced → (nodeId, other) ∈ produced →
    config.configVersion = other.configVersion → sent config = sent other

/-- Of all that has reached the agent, what has the greatest version is what the agent holds. -/
def Converged (side : AgentSide) : Prop :=
  ∀ config ∈ side.delivered,
    (∀ other ∈ side.delivered, other.configVersion ≤ config.configVersion) →
      side.runtime.held = sent config

theorem agents_hold_newest (clock : Int) (settings : String → CollectorSettings)
    (events : List Event) :
    Determined (Trace.run step (start clock settings) events).produced ∧
      ∀ nodeId, Converged ((Trace.run step (start clock settings) events).agents nodeId) := by
  have hinv := inv_run clock settings events
  constructor
  · intro nodeId config other hconfig hother hversion
    exact (hinv.read nodeId).coherent _ (mem_producedFor.mpr ⟨config, hconfig, rfl⟩) _
      (mem_producedFor.mpr ⟨other, hother, rfl⟩) hversion
  · intro nodeId config hconfig hgreatest
    rcases hinv.keeps nodeId with ⟨hnone, -⟩ | hnewest
    · rw [hnone] at hconfig
      simp at hconfig
    · have hcoherent : Stamped.Coherent
          (((Trace.run step (start clock settings) events).agents nodeId).delivered.map sent) := by
        intro a ha b hb hversion
        obtain ⟨configA, hmemA, rfl⟩ := List.mem_map.mp ha
        obtain ⟨configB, hmemB, rfl⟩ := List.mem_map.mp hb
        exact (hinv.read nodeId).coherent _ (hinv.delivered nodeId configA hmemA) _
          (hinv.delivered nodeId configB hmemB) hversion
      refine hnewest.eq_of_greatest hcoherent (List.mem_map_of_mem hconfig) fun b hb => ?_
      obtain ⟨other, hother, rfl⟩ := List.mem_map.mp hb
      exact hgreatest other hother

end LightAI.ConfigSync
