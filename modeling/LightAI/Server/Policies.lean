import LightAI.Base.Upsert
import LightAI.Base.Versioned
import LightAI.Agent.RuntimeConfig
import LightAI.Server.ControlPlane

/-!
# The policies of the agents, statement by statement

What `effective_agent_config` and the two saves do to `agent_config_policies`. All saves take their
versions from one counter, the greatest version in the table, so that a save changes the effective
configuration of a node only together with a greater version.
-/

namespace LightAI.Policies

open Server

abbrev PolicyTable := Table (String × String) AgentConfigPolicyRow AgentConfigPolicyRow.key

/-- The table, and the wall clock that `now_unix_secs` reads. -/
structure PolicyDb where
  clock : Int := 0
  agentConfigPolicies : PolicyTable := .empty

inductive Stmt where
  | nowUnixSecs
  | selectPolicy (scope nodeId : String)
  | selectVersion (scope nodeId : String)
  | selectMaxVersion
  | upsertPolicy (scope nodeId : String) (policy : AgentConfigPolicy) (version updatedAt : Int)
  deriving DecidableEq

abbrev Stmt.Answer : Stmt → Type
  | nowUnixSecs => Int
  | selectPolicy _ _ => Option AgentConfigPolicy
  | selectVersion _ _ => Option Int
  | selectMaxVersion => Option Int
  | upsertPolicy _ _ _ _ _ => Unit

def maxVersion (table : PolicyTable) : Option Int := (table.rows.map (·.version)).max?

def upsertPolicy (table : PolicyTable) (scope nodeId : String) (policy : AgentConfigPolicy)
    (version updatedAt : Int) : PolicyTable :=
  table.upsert { scope, nodeId, policy, version, updatedAt }
    (Users.setPolicy policy version updatedAt) (Users.setPolicy_key policy version updatedAt)

def Stmt.exec : (stmt : Stmt) → PolicyDb → stmt.Answer × PolicyDb
  | nowUnixSecs, db => (db.clock, db)
  | selectPolicy scope nodeId, db =>
      ((db.agentConfigPolicies.find? (scope, nodeId)).map (·.policy), db)
  | selectVersion scope nodeId, db =>
      ((db.agentConfigPolicies.find? (scope, nodeId)).map (·.version), db)
  | selectMaxVersion, db => (maxVersion db.agentConfigPolicies, db)
  | upsertPolicy scope nodeId policy version updatedAt, db =>
      ((), { db with
        agentConfigPolicies :=
          Policies.upsertPolicy db.agentConfigPolicies scope nodeId policy version updatedAt })

abbrev Code := Program Stmt Stmt.Answer

def nowUnixSecs : Code Int := .perform Stmt.nowUnixSecs

def readPolicy (scope nodeId : String) : Code (Option AgentConfigPolicy) :=
  .perform (Stmt.selectPolicy scope nodeId)

def policyVersion (scope nodeId : String) : Code (Option Int) :=
  .perform (Stmt.selectVersion scope nodeId)

def effectiveAgentConfig (nodeId : String) : Code AgentConfig := do
  let now ← nowUnixSecs
  let global ← readPolicy "global" ""
  let node ← readPolicy "node" nodeId
  let globalVersion ← policyVersion "global" ""
  let nodeVersion ← policyVersion "node" nodeId
  pure (applyPolicy (defaultAgentConfig now) (global.getD {}) (node.getD {})
    (max (max (globalVersion.getD agentConfigVersion) (nodeVersion.getD 0)) agentConfigVersion) now)

def nextPolicyVersion : Code Int := do
  let current ← .perform Stmt.selectMaxVersion
  pure ((current : Option Int).getD agentConfigVersion + 1)

def saveAgentConfigPolicy (scope nodeId : String) (policy : AgentConfigPolicy) :
    Code (Except String Unit) :=
  match Users.validatePolicy policy with
  | .error message => pure (.error message)
  | .ok () => do
      let now ← nowUnixSecs
      let version ← nextPolicyVersion
      .perform (Stmt.upsertPolicy scope nodeId policy version now)
      pure (.ok ())

/-! ### The effective configuration of a table -/

/-- The content that the two layers give. -/
def layered (global node : AgentConfigPolicy) : Agent.ConfigContent :=
  (Agent.sent (applyPolicy (defaultAgentConfig 0) global node 0 0)).content

/-- The version that the versions of the two layers give. -/
def effectiveVersion (global node : Option Int) : Int :=
  max (max (global.getD agentConfigVersion) (node.getD 0)) agentConfigVersion

theorem effectiveVersion_ge (global node : Option Int) :
    agentConfigVersion ≤ effectiveVersion global node := le_max_right _ _

/-- The version and the content of a configuration put together from two layers. -/
theorem sent_applyPolicy (now version updatedAt : Int) (global node : AgentConfigPolicy) :
    Agent.sent (applyPolicy (defaultAgentConfig now) global node version updatedAt)
      = ⟨version, layered global node⟩ := rfl

/-- The effective configuration of a node, as the table stands. -/
def current (table : PolicyTable) (nodeId : String) : Stamped Int Agent.ConfigContent where
  version :=
    effectiveVersion ((table.find? ("global", "")).map (·.version))
      ((table.find? ("node", nodeId)).map (·.version))
  content :=
    layered (((table.find? ("global", "")).map (·.policy)).getD {})
      (((table.find? ("node", nodeId)).map (·.policy)).getD {})

theorem run_effectiveAgentConfig (nodeId : String) (db : PolicyDb) :
    Agent.sent ((effectiveAgentConfig nodeId).run Stmt.exec db).1
        = current db.agentConfigPolicies nodeId
      ∧ ((effectiveAgentConfig nodeId).run Stmt.exec db).2 = db := ⟨rfl, rfl⟩

/-! ### What a save does -/

/-- The version that the next save will give. -/
def freshVersion (table : PolicyTable) : Int := (maxVersion table).getD agentConfigVersion + 1

theorem run_saveAgentConfigPolicy (scope nodeId : String) (policy : AgentConfigPolicy) (db : PolicyDb)
    (hvalid : Users.validatePolicy policy = .ok ()) :
    (saveAgentConfigPolicy scope nodeId policy).run Stmt.exec db
      = (.ok (), { db with
          agentConfigPolicies :=
            upsertPolicy db.agentConfigPolicies scope nodeId policy
              (freshVersion db.agentConfigPolicies) db.clock }) := by
  unfold saveAgentConfigPolicy
  rw [hvalid]
  rfl

theorem run_saveAgentConfigPolicy_error (scope nodeId : String) (policy : AgentConfigPolicy)
    (db : PolicyDb) {message : String} (hinvalid : Users.validatePolicy policy = .error message) :
    (saveAgentConfigPolicy scope nodeId policy).run Stmt.exec db = (.error message, db) := by
  unfold saveAgentConfigPolicy
  rw [hinvalid]
  rfl

/-- The row that a save leaves under its key. -/
theorem find?_upsertPolicy (table : PolicyTable) (scope nodeId : String) (policy : AgentConfigPolicy)
    (version updatedAt : Int) (key : String × String) :
    (upsertPolicy table scope nodeId policy version updatedAt).find? key
      = if key = (scope, nodeId) then some { scope, nodeId, policy, version, updatedAt }
        else table.find? key := by
  refine Table.find?_upsert_of_replaces table _ (fun row hkey => ?_) key
  obtain ⟨hscope, hnode⟩ := Prod.mk.inj hkey
  simp only [Users.setPolicy]
  rw [hscope, hnode]

/-! ### Versions only grow -/

/-- All versions are beyond the built-in one and below `bound`. -/
def Within (bound : Int) (table : PolicyTable) : Prop :=
  agentConfigVersion < bound ∧
    ∀ row ∈ table.rows, agentConfigVersion < row.version ∧ row.version < bound

theorem within_empty : Within (agentConfigVersion + 1) .empty := by
  refine ⟨by omega, ?_⟩
  intro row hrow
  simp [Table.empty] at hrow

theorem version_lt_freshVersion {table : PolicyTable} {row : AgentConfigPolicyRow}
    (hrow : row ∈ table.rows) : row.version < freshVersion table := by
  unfold freshVersion maxVersion
  have hmem : row.version ∈ table.rows.map (·.version) := List.mem_map_of_mem hrow
  cases hmax : (table.rows.map (·.version)).max? with
  | none =>
      rw [List.max?_eq_none_iff.mp hmax] at hmem
      simp at hmem
  | some greatest =>
      have hle : row.version ≤ greatest := (List.max?_eq_some_iff.mp hmax).2 _ hmem
      simp only [Option.getD_some]
      omega

theorem Within.fresh {bound : Int} {table : PolicyTable} (h : Within bound table) :
    Within (freshVersion table) table := by
  refine ⟨?_, fun row hrow => ⟨(h.2 row hrow).1, version_lt_freshVersion hrow⟩⟩
  cases hrows : table.rows with
  | nil => simp [freshVersion, maxVersion, hrows]
  | cons row rows =>
      have hmem : row ∈ table.rows := by simp [hrows]
      exact (h.2 row hmem).1.trans (version_lt_freshVersion hmem)

theorem Within.upsertPolicy {bound version updatedAt : Int} {table : PolicyTable} {scope nodeId : String}
    {policy : AgentConfigPolicy} (h : Within bound table) (hversion : bound ≤ version) :
    Within (version + 1) (upsertPolicy table scope nodeId policy version updatedAt) := by
  have hbound := h.1
  refine ⟨by omega, fun row hrow => ?_⟩
  have hfind := Table.find?_of_mem hrow
  rw [find?_upsertPolicy] at hfind
  split at hfind
  · rw [← Option.some.inj hfind]
    dsimp only
    omega
  · have hrowVersion := h.2 row (Table.find?_mem hfind)
    omega

theorem freshVersion_upsertPolicy (table : PolicyTable) (scope nodeId : String)
    (policy : AgentConfigPolicy) (version updatedAt : Int) :
    version < freshVersion (upsertPolicy table scope nodeId policy version updatedAt) := by
  have hfind : (upsertPolicy table scope nodeId policy version updatedAt).find? (scope, nodeId)
      = some { scope, nodeId, policy, version, updatedAt } := by
    rw [find?_upsertPolicy, if_pos rfl]
  exact version_lt_freshVersion (Table.find?_mem hfind)

/-- The version of a layer is among those of the table. -/
theorem Within.layer_lt {bound : Int} {table : PolicyTable} (h : Within bound table)
    (key : String × String) {default : Int} (hdefault : default ≤ agentConfigVersion) :
    ((table.find? key).map (·.version)).getD default < bound := by
  have hbound := h.1
  cases hfind : table.find? key with
  | none =>
      simp only [Option.map_none, Option.getD_none]
      omega
  | some row =>
      have hrowVersion := (h.2 row (Table.find?_mem hfind)).2
      simpa using hrowVersion

theorem Within.current_lt {bound : Int} {table : PolicyTable} (h : Within bound table)
    (nodeId : String) : (current table nodeId).version < bound := by
  have hglobal := h.layer_lt ("global", "") le_rfl
  have hnode := h.layer_lt ("node", nodeId) (show (0 : Int) ≤ agentConfigVersion by decide)
  exact max_lt (max_lt hglobal hnode) h.1

/-- A save with a version beyond those of the table is seen, at each node, together with a greater
version. -/
theorem current_advances {bound version updatedAt : Int} {table : PolicyTable} {scope nodeId : String}
    {policy : AgentConfigPolicy} (h : Within bound table) (hversion : bound ≤ version)
    (node : String) :
    (current table node).Advances
      (current (upsertPolicy table scope nodeId policy version updatedAt) node) := by
  have hold : (current table node).version < version := (h.current_lt node).trans_le hversion
  by_cases hglobal : (scope, nodeId) = ("global", "")
  · left
    refine hold.trans_le ?_
    simp only [current, effectiveVersion, find?_upsertPolicy, hglobal, if_true]
    simp
  · by_cases hnode : (scope, nodeId) = ("node", node)
    · left
      refine hold.trans_le ?_
      simp only [current, effectiveVersion, find?_upsertPolicy, hnode, if_true]
      simp
    · right
      simp only [current, find?_upsertPolicy, if_neg (Ne.symm hglobal), if_neg (Ne.symm hnode)]

end LightAI.Policies
