import LightAI.System.AgentCycles

/-!
# Whose node an id is

Where no two agents share a name or a host name, every node is that of one agent, and an id that an agent
holds is that of its own node or of none. A registration and a heartbeat leave every other agent what is its
own.
-/

namespace LightAI.SettledAgents

open Nodes (Committed HeartbeatRequest Node NodesDb RegisterRequest SameIdentities TokenHash agentHeartbeat
  authenticateNode registerNode)

/-! ### Ids and their agents -/

section Ownership

variable {ι : Type} {auth : TokenHash} {agents : ι → RegisterRequest} {files : ι → StateFile}

/-- No other agent's node has the id, and no node that is still to come will have it. -/
structure Own (agents : ι → RegisterRequest) (files : ι → StateFile) (agent : ι) (nodes : NodesDb)
    (id : String) : Prop where
  mine : ∀ row, nodes.nodes.find? id = some row → row.name = (agents agent).name
  claimed : nodes.nodes.find? id = none → ∃ other state, files other = .holds state ∧ state.nodeId = id

structure Inv (agents : ι → RegisterRequest) (files : ι → StateFile) (s : Site ι) : Prop where
  distinct : Nodes.Distinct s.nodes
  named : ∀ row ∈ s.nodes.nodes.rows, ∃ agent, row.name = (agents agent).name ∧
    row.hostname = (agents agent).hostname
  unclaimed : ∀ row ∈ s.nodes.nodes.rows, ∀ agent state, files agent = .holds state →
    state.nodeId ≠ row.id
  owned : ∀ agent state, s.files agent = .holds state → Own agents files agent s.nodes state.nodeId

theorem Own.congr {agent : ι} {nodes nodes' : NodesDb} {id : String}
    (hsame : nodes'.nodes.find? id = nodes.nodes.find? id) (h : Own agents files agent nodes id) :
    Own agents files agent nodes' id where
  mine row hrow := h.mine row (hsame ▸ hrow)
  claimed hnone := h.claimed (hsame ▸ hnone)

theorem Own.kept {agent : ι} {nodes nodes' : NodesDb} {id : String} (hsame : SameIdentities nodes nodes')
    (h : Own agents files agent nodes id) : Own agents files agent nodes' id where
  mine row hrow := by
    have hidentity := hsame id
    rw [hrow] at hidentity
    obtain ⟨old, hold, heq⟩ := Option.map_eq_some_iff.mp hidentity.symm
    simp only [Node.identity, Prod.mk.injEq] at heq
    rw [← heq.2.1]
    exact h.mine old hold
  claimed hnone := by
    have hidentity := hsame id
    rw [hnone] at hidentity
    exact h.claimed (Option.map_eq_none_iff.mp hidentity.symm)

theorem own_of_name {agent : ι} {nodes : NodesDb} {row : Node} (hrow : row ∈ nodes.nodes.rows)
    (hname : row.name = (agents agent).name) : Own agents files agent nodes row.id where
  mine found hfound := by
    rw [Table.find?_of_mem hrow] at hfound
    rw [← Option.some.inj hfound]
    exact hname
  claimed hnone := by
    rw [Table.find?_of_mem hrow] at hnone
    cases hnone

theorem Inv.named_mine (hagents : DistinctAgents agents) {s : Site ι} (h : Inv agents files s) {agent : ι}
    {row : Node} (hrow : row ∈ s.nodes.nodes.rows) (hname : row.name = (agents agent).name) :
    row.hostname = (agents agent).hostname := by
  obtain ⟨other, hother, hhost⟩ := h.named row hrow
  have hsame : other = agent := hagents.names (hother.symm.trans hname)
  rw [hhost, hsame]

/-- An id with a node is one agent's. -/
theorem own_unique (hagents : DistinctAgents agents) {agent other : ι} {nodes : NodesDb} {id : String}
    (h : Own agents files agent nodes id) (hother : Own agents files other nodes id)
    (hthere : (nodes.nodes.find? id).isSome = true) : other = agent := by
  obtain ⟨row, hrow⟩ := Option.isSome_iff_exists.mp hthere
  exact hagents.names ((hother.mine row hrow).symm.trans (h.mine row hrow))

/-! ### What a registration does -/

theorem tryRegister_id {request : RegisterRequest} {now : Int} {token newId nodeId : String}
    {db db' : NodesDb} (h : Nodes.tryRegister auth request now token newId db = (.ok nodeId, db')) :
    nodeId = newId ∨ (db.nodes.find? nodeId).isSome = true := by
  unfold Nodes.tryRegister at h
  split at h
  · cases h
  · split at h
    · cases h
    · dsimp only at h
      split at h
      · cases h
      · obtain ⟨hid, -⟩ := Prod.mk.inj h
        rw [← Except.ok.inj hid]
        cases hexisting : db.nodes.rows.find? fun row =>
            row.name = request.name && row.hostname = request.hostname with
        | none => exact Or.inl rfl
        | some row =>
            right
            have hmem := List.mem_of_find?_eq_some hexisting
            change (db.nodes.find? row.id).isSome = true
            rw [Table.find?_of_mem hmem]
            rfl

theorem Inv.not_conflicts (hagents : DistinctAgents agents) {s : Site ι} (h : Inv agents files s)
    (agent : ι) : ¬ Nodes.Conflicts s.nodes (agents agent) := by
  rintro ⟨row, hrow, ⟨hname, hhost⟩ | ⟨hhost, hname⟩⟩
  · exact hhost (h.named_mine hagents hrow hname)
  · obtain ⟨other, hother, hotherHost⟩ := h.named row hrow
    have hsame : other = agent := hagents.hostnames (hotherHost.symm.trans hhost)
    rw [hother, hsame] at hname
    exact hname rfl

variable (auth) in
/-- The registration of an agent is committed, for its own node or for one with a new id. -/
theorem served_spec (hagents : DistinctAgents agents) {s : Site ι} (h : Inv agents files s) (agent : ι)
    {conditions : Conditions} (hfresh : conditions.Fresh files s) :
    ∃ nodeId nodes, served auth agents agent conditions s = (.ok nodeId, nodes) ∧
      Committed auth (agents agent) conditions.token nodeId s.nodes nodes ∧
        (s.nodes.nodes.find? nodeId = none → Unused files s nodeId) := by
  obtain ⟨hconflict, -⟩ | ⟨nodeId, nodes, hok, hcommitted⟩ :=
    Nodes.tryRegister_spec auth (agents agent) s.nodes.clock conditions.token conditions.newId h.distinct
      hfresh.1.1
  · exact absurd hconflict (h.not_conflicts hagents agent)
  · refine ⟨nodeId, nodes, ?_, hcommitted, fun hnone => ?_⟩
    · unfold served registerNode
      simp only [Program.perform_bind, Program.run_call, Nodes.Stmt.exec, Conditions.registration, hok]
      rfl
    · obtain rfl | hthere := tryRegister_id hok
      · exact hfresh.1
      · rw [hnone] at hthere
        cases hthere

/-- The id that a registration answers with is no other agent's. -/
theorem own_of_committed (hagents : DistinctAgents agents) {s : Site ι} (h : Inv agents files s)
    {agent other : ι} {token nodeId : String} {nodes : NodesDb}
    (hcommitted : Committed auth (agents agent) token nodeId s.nodes nodes)
    (hunused : s.nodes.nodes.find? nodeId = none → Unused files s nodeId)
    (hown : Own agents files other s.nodes nodeId) : other = agent := by
  cases hfound : s.nodes.nodes.find? nodeId with
  | none =>
      obtain ⟨holder, state, hholds, hid⟩ := hown.claimed hfound
      exact absurd hid ((hunused hfound).2 holder state hholds)
  | some row =>
      have hrow := Table.find?_mem hfound
      have hname := hown.mine row hfound
      obtain hsame | hsame := (hcommitted.own row hrow).mpr (Table.find?_key hfound)
      · exact hagents.names (hname.symm.trans hsame)
      · exact hagents.hostnames ((h.named_mine hagents hrow hname).symm.trans hsame)

/-- A registration leaves every other agent what is its own. -/
structure Registers (auth : TokenHash) (agents : ι → RegisterRequest) (files : ι → StateFile) (agent : ι)
    (token nodeId : String) (s : Site ι) (nodes : NodesDb) : Prop where
  inv : Inv agents files { s with nodes }
  owned : ∀ other id, Own agents files other s.nodes id → Own agents files other nodes id
  same : ∀ other, other ≠ agent → ∀ id, Own agents files other s.nodes id →
    nodes.nodes.find? id = s.nodes.nodes.find? id
  mine : Own agents files agent nodes nodeId
  accepted : authenticateNode auth nodes nodeId token = true

theorem registers_of_committed (hagents : DistinctAgents agents) {s : Site ι} (h : Inv agents files s)
    {agent : ι} {token nodeId : String} {nodes : NodesDb}
    (hcommitted : Committed auth (agents agent) token nodeId s.nodes nodes)
    (hunused : s.nodes.nodes.find? nodeId = none → Unused files s nodeId) :
    Registers auth agents files agent token nodeId s nodes := by
  obtain ⟨written, hname, hhost, hid, hhash, hfind⟩ := hcommitted.written
  have hwritten : nodes.nodes.find? nodeId = some written := by rw [hfind, if_pos rfl]
  have hkept : ∀ id, id ≠ nodeId → nodes.nodes.find? id = s.nodes.nodes.find? id := by
    intro id hne
    rw [hfind, if_neg hne]
  have hmine : Own agents files agent nodes nodeId := by
    have hown : Own agents files agent nodes written.id := own_of_name (Table.find?_mem hwritten) hname
    rwa [hid] at hown
  have howned : ∀ other id, Own agents files other s.nodes id → Own agents files other nodes id := by
    intro other id hown
    by_cases hsame : id = nodeId
    · subst hsame
      rwa [own_of_committed hagents h hcommitted hunused hown]
    · exact hown.congr (hkept id hsame)
  refine ⟨⟨hcommitted.distinct h.distinct, ?_, ?_, ?_⟩, howned, ?_, hmine, ?_⟩
  · intro row hrow
    obtain ⟨-, hrowName, hrowHost, -⟩ | ⟨hold, -⟩ := hcommitted.find? hrow
    · exact ⟨agent, hrowName, hrowHost⟩
    · exact h.named row hold
  · intro row hrow holder state hholds
    obtain ⟨hrowId, -⟩ | ⟨hold, -⟩ := hcommitted.find? hrow
    · rw [hrowId]
      cases hfound : s.nodes.nodes.find? nodeId with
      | none => exact (hunused hfound).2 holder state hholds
      | some old =>
          have hne := h.unclaimed old (Table.find?_mem hfound) holder state hholds
          rwa [Table.find?_key hfound] at hne
    · exact h.unclaimed row hold holder state hholds
  · intro holder state hholds
    exact howned holder state.nodeId (h.owned holder state hholds)
  · intro other hne id hown
    refine hkept id fun hsame => hne ?_
    subst hsame
    exact own_of_committed hagents h hcommitted hunused hown
  · exact Nodes.authenticateNode_eq_true.mpr ⟨written, hwritten, hhash.symm⟩

/-! ### What a heartbeat does -/

theorem run_agentHeartbeat (token : String) (request : HeartbeatRequest) (db : NodesDb) :
    (agentHeartbeat token request).run (Nodes.Stmt.exec auth) db
      = if authenticateNode auth db request.nodeId token = true then
          (true, Nodes.recordHeartbeat request db)
        else (false, db) := by
  have hexec : Nodes.Stmt.exec auth (.authenticateNode request.nodeId token) db
      = (authenticateNode auth db request.nodeId token, db) := rfl
  unfold agentHeartbeat
  rw [Program.perform_bind, Program.run_call, hexec]
  cases authenticateNode auth db request.nodeId token with
  | true => rfl
  | false => rfl

theorem find?_recordHeartbeat (request : HeartbeatRequest) (db : NodesDb) (id : String) :
    (Nodes.recordHeartbeat request db).nodes.find? id
      = if id = request.nodeId then
          (db.nodes.find? id).map (·.heard db.clock request.sampledAt)
        else db.nodes.find? id := by
  rw [(Nodes.nodes_recordHeartbeat request db).1, Table.find?_update]

theorem Inv.kept {s : Site ι} (h : Inv agents files s) {nodes : NodesDb}
    (hsame : SameIdentities s.nodes nodes) : Inv agents files { s with nodes } where
  distinct := hsame.distinct h.distinct
  named row hrow := by
    obtain ⟨old, hold, -, hname, hhost⟩ := hsame.symm.keepsIds row hrow
    rw [← hname, ← hhost]
    exact h.named old hold
  unclaimed row hrow agent state hholds := by
    obtain ⟨old, hold, hid, -, -⟩ := hsame.symm.keepsIds row hrow
    rw [← hid]
    exact h.unclaimed old hold agent state hholds
  owned agent state hholds := (h.owned agent state hholds).kept hsame

/-- A heartbeat for an own node leaves every other agent what is its own. -/
theorem same_recordHeartbeat (hagents : DistinctAgents agents) {s : Site ι} {agent other : ι}
    {request : HeartbeatRequest} (hown : Own agents files agent s.nodes request.nodeId)
    (hne : other ≠ agent) {id : String} (hother : Own agents files other s.nodes id) :
    (Nodes.recordHeartbeat request s.nodes).nodes.find? id = s.nodes.nodes.find? id := by
  rw [find?_recordHeartbeat]
  by_cases hsame : id = request.nodeId
  · subst hsame
    rw [if_pos rfl]
    cases hfound : s.nodes.nodes.find? request.nodeId with
    | none => rfl
    | some row =>
        have hthere : (s.nodes.nodes.find? request.nodeId).isSome = true := by rw [hfound]; rfl
        exact absurd (own_unique hagents hown hother hthere) hne
  · rw [if_neg hsame]

theorem authenticateNode_congr {nodes nodes' : NodesDb} {id : String}
    (hsame : nodes'.nodes.find? id = nodes.nodes.find? id) (token : String) :
    authenticateNode auth nodes' id token = authenticateNode auth nodes id token := by
  unfold authenticateNode
  rw [hsame]

theorem authenticateNode_recordHeartbeat (request : HeartbeatRequest) (db : NodesDb) (id token : String) :
    authenticateNode auth (Nodes.recordHeartbeat request db) id token
      = authenticateNode auth db id token := by
  unfold authenticateNode
  rw [find?_recordHeartbeat]
  split
  · cases db.nodes.find? id with
    | none => rfl
    | some row => rfl
  · rfl

end Ownership

end LightAI.SettledAgents
