import LightAI.Base.Threadwise
import LightAI.Server.Policies

/-!
# Policies saved while configurations are put together

The calls of `effective_agent_config` and the saves, one statement at a time in any order. An effective
configuration is put together from two reads of each row, and a version is read before it is written.
Other saves can come in between, and then a version stands for two contents.
-/

namespace LightAI.PolicyRaces

open Policies Interleaving
open Server (AgentConfig AgentConfigPolicy agentConfigVersion defaultAgentConfig applyPolicy)
open Agent (ConfigContent sent)

inductive Request where
  | effectiveAgentConfig (nodeId : String)
  | saveGlobalPolicy (policy : AgentConfigPolicy)
  | saveNodePolicy (nodeId : String) (policy : AgentConfigPolicy)
  deriving DecidableEq

inductive Reply where
  | config (config : AgentConfig)
  | saved (result : Except String Unit)
  deriving DecidableEq

def Request.code : Request → Code Reply
  | effectiveAgentConfig nodeId => do
      let config ← Policies.effectiveAgentConfig nodeId
      pure (.config config)
  | saveGlobalPolicy policy => do
      let result ← saveAgentConfigPolicy "global" "" policy
      pure (.saved result)
  | saveNodePolicy nodeId policy => do
      let result ← saveAgentConfigPolicy "node" nodeId policy
      pure (.saved result)

/-- The calls over one database, whose clock somebody sets. -/
def server : System Request Int Stmt Stmt.Answer PolicyDb Reply where
  handle := Request.code
  exec := Stmt.exec
  act clock db := { db with clock }

abbrev Server := Config Request Stmt Stmt.Answer PolicyDb Reply

abbrev Call := Thread Request Stmt Stmt.Answer Reply

/-- An empty table and no call under way. -/
def start (clock : Int) : Server := ⟨{ clock }, []⟩

/-! ### What is asked of the calls -/

/-- One content to a node and a version. -/
def OneContent (c : Server) : Prop :=
  ∀ t ∈ c.threads, ∀ t' ∈ c.threads, ∀ nodeId config config',
    t.request = .effectiveAgentConfig nodeId → t'.request = .effectiveAgentConfig nodeId →
    t.result = some (.config config) → t'.result = some (.config config') →
    config.configVersion = config'.configVersion → sent config = sent config'

/-- The save that writes a policy under `version` has obtained it. -/
def obtains (version : Int) : Stmt → Bool
  | .upsertPolicy _ _ _ version' _ => version' = version
  | _ => false

/-- The statement obtains nothing, and then it only reads. -/
def Reads (stmt : Stmt) : Prop := ∀ version, obtains version stmt = false

theorem Reads.exec {stmt : Stmt} (h : Reads stmt) (db : PolicyDb) : (stmt.exec db).2 = db := by
  cases stmt with
  | upsertPolicy scope nodeId policy version updatedAt =>
      have hversion := h version
      simp [obtains] at hversion
  | _ => rfl

/-- One save to a version. -/
def OneSave (c : Server) : Prop := ∀ version, System.performedCount (obtains version) c ≤ 1

/-! ### When it holds -/

/-- The call has read the policy of the row and not yet its version. -/
def Between (t : Call) (scope nodeId : String) : Prop :=
  .selectPolicy scope nodeId ∈ t.done ∧ .selectVersion scope nodeId ∉ t.done

/-- The call has read the greatest version and not yet written the next one. -/
def Numbering (t : Call) : Prop := .selectMaxVersion ∈ t.done ∧ t.result.isNone = true

/-- No policy is written while another call stands between the two reads of that row or, to write a policy
itself, has read the greatest version. -/
def Undisturbed (c : Server) : Event Request Int → Prop
  | .step index => ∀ (t : Call) scope nodeId policy version updatedAt next,
      c.threads[index]? = some t → t.dropped = false →
        t.rest = .call (.upsertPolicy scope nodeId policy version updatedAt) next →
          ∀ (other : Nat) t', other ≠ index → c.threads[other]? = some t' → t'.dropped = false →
            ¬ Between t' scope nodeId ∧ ¬ Numbering t'
  | _ => True

/-! ### Where a call of `effective_agent_config` stands -/

def globalKey : String × String := ("global", "")

def nodeKey (nodeId : String) : String × String := ("node", nodeId)

def policyOf (table : PolicyTable) (key : String × String) : Option AgentConfigPolicy :=
  (table.find? key).map (·.policy)

def versionOf (table : PolicyTable) (key : String × String) : Option Int :=
  (table.find? key).map (·.version)

def configOf (now : Int) (global node : Option AgentConfigPolicy) (globalVersion nodeVersion : Option Int) :
    AgentConfig :=
  applyPolicy (defaultAgentConfig now) (global.getD {}) (node.getD {})
    (effectiveVersion globalVersion nodeVersion) now

def afterGlobalVersion (nodeId : String) (now : Int) (global node : Option AgentConfigPolicy)
    (globalVersion : Option Int) : Code Reply :=
  .call (.selectVersion "node" nodeId) fun nodeVersion : Option Int =>
    .ret (.config (configOf now global node globalVersion nodeVersion))

def afterNode (nodeId : String) (now : Int) (global node : Option AgentConfigPolicy) : Code Reply :=
  .call (.selectVersion "global" "") fun globalVersion : Option Int =>
    afterGlobalVersion nodeId now global node globalVersion

def afterGlobal (nodeId : String) (now : Int) (global : Option AgentConfigPolicy) : Code Reply :=
  .call (.selectPolicy "node" nodeId) fun node : Option AgentConfigPolicy =>
    afterNode nodeId now global node

def afterNow (nodeId : String) (now : Int) : Code Reply :=
  .call (.selectPolicy "global" "") fun global : Option AgentConfigPolicy =>
    afterGlobal nodeId now global

theorem code_effectiveAgentConfig (nodeId : String) :
    (Request.effectiveAgentConfig nodeId).code
      = .call .nowUnixSecs fun now : Int => afterNow nodeId now := rfl

/-- What a call has read agrees with the table, row by row while it stands between the two reads of the
row, and its configuration is that of one table that there has been. -/
inductive Reading (past : List PolicyTable) (table : PolicyTable) (nodeId : String) :
    List Stmt → Code Reply → Prop where
  | begun : Reading past table nodeId [] (Request.effectiveAgentConfig nodeId).code
  | now (now : Int) : Reading past table nodeId [.nowUnixSecs] (afterNow nodeId now)
  | global (now : Int) :
      Reading past table nodeId [.selectPolicy "global" "", .nowUnixSecs]
        (afterGlobal nodeId now (policyOf table globalKey))
  | node (now : Int) :
      Reading past table nodeId
        [.selectPolicy "node" nodeId, .selectPolicy "global" "", .nowUnixSecs]
        (afterNode nodeId now (policyOf table globalKey) (policyOf table (nodeKey nodeId)))
  | globalVersion (now : Int) (before : PolicyTable) (hpast : before ∈ past)
      (hrow : before.find? (nodeKey nodeId) = table.find? (nodeKey nodeId)) :
      Reading past table nodeId
        [.selectVersion "global" "", .selectPolicy "node" nodeId, .selectPolicy "global" "",
          .nowUnixSecs]
        (afterGlobalVersion nodeId now (policyOf before globalKey) (policyOf before (nodeKey nodeId))
          (versionOf before globalKey))
  | ended (config : AgentConfig) (before : PolicyTable) (hpast : before ∈ past)
      (hsent : sent config = current before nodeId) :
      Reading past table nodeId
        [.selectVersion "node" nodeId, .selectVersion "global" "", .selectPolicy "node" nodeId,
          .selectPolicy "global" "", .nowUnixSecs]
        (.ret (.config config))

theorem configOf_sent (now : Int) (nodeId : String) (table : PolicyTable) :
    sent (configOf now (policyOf table globalKey) (policyOf table (nodeKey nodeId))
        (versionOf table globalKey) (versionOf table (nodeKey nodeId)))
      = current table nodeId := rfl

/-- The call's own next step. -/
theorem Reading.own {past : List PolicyTable} {db : PolicyDb} {nodeId : String} {done : List Stmt}
    {op : Stmt} {next : op.Answer → Code Reply} {rest : Code Reply} (hnow : db.agentConfigPolicies ∈ past)
    (hrest : rest = .call op next) (h : Reading past db.agentConfigPolicies nodeId done rest) :
    Reads op ∧ Reading past db.agentConfigPolicies nodeId (op :: done) (next (op.exec db).1) := by
  cases h with
  | begun =>
      rw [code_effectiveAgentConfig] at hrest
      injection hrest with hop hnext
      subst hop
      obtain rfl := eq_of_heq hnext
      exact ⟨fun _ => rfl, .now db.clock⟩
  | now clock =>
      injection hrest with hop hnext
      subst hop
      obtain rfl := eq_of_heq hnext
      exact ⟨fun _ => rfl, .global clock⟩
  | global clock =>
      injection hrest with hop hnext
      subst hop
      obtain rfl := eq_of_heq hnext
      exact ⟨fun _ => rfl, .node clock⟩
  | node clock =>
      injection hrest with hop hnext
      subst hop
      obtain rfl := eq_of_heq hnext
      exact ⟨fun _ => rfl, .globalVersion clock db.agentConfigPolicies hnow rfl⟩
  | globalVersion clock before hpast hrow =>
      injection hrest with hop hnext
      subst hop
      obtain rfl := eq_of_heq hnext
      refine ⟨fun _ => rfl, .ended _ before hpast ?_⟩
      have hversion : (db.agentConfigPolicies.find? (nodeKey nodeId)).map (·.version)
          = versionOf before (nodeKey nodeId) := by
        rw [← hrow]
        rfl
      change sent (configOf clock _ _ _
        ((db.agentConfigPolicies.find? (nodeKey nodeId)).map (·.version))) = _
      rw [hversion]
      exact configOf_sent clock nodeId before
  | ended config before hpast hsent => cases hrest

/-- Others may write, but not a row between its two reads. -/
theorem Reading.kept {past past' : List PolicyTable} {table table' : PolicyTable} {nodeId : String}
    {done : List Stmt} {rest : Code Reply} (hpast : ∀ before ∈ past, before ∈ past')
    (hkeep : ∀ scope node, .selectPolicy scope node ∈ done → .selectVersion scope node ∉ done →
      table'.find? (scope, node) = table.find? (scope, node))
    (h : Reading past table nodeId done rest) : Reading past' table' nodeId done rest := by
  cases h with
  | begun => exact .begun
  | now clock => exact .now clock
  | global clock =>
      have hglobal : policyOf table' globalKey = policyOf table globalKey := by
        unfold policyOf globalKey
        rw [hkeep "global" "" (by simp) (by simp)]
      rw [← hglobal]
      exact .global clock
  | node clock =>
      have hglobal : policyOf table' globalKey = policyOf table globalKey := by
        unfold policyOf globalKey
        rw [hkeep "global" "" (by simp) (by simp)]
      have hnode : policyOf table' (nodeKey nodeId) = policyOf table (nodeKey nodeId) := by
        unfold policyOf nodeKey
        rw [hkeep "node" nodeId (by simp) (by simp)]
      rw [← hglobal, ← hnode]
      exact .node clock
  | globalVersion clock before hbefore hrow =>
      refine .globalVersion clock before (hpast before hbefore) (hrow.trans ?_)
      exact (hkeep "node" nodeId (by simp) (by simp)).symm
  | ended config before hbefore hsent => exact .ended config before (hpast before hbefore) hsent

/-- An answer stays what it is. -/
theorem Reading.kept_of_ret {past past' : List PolicyTable} {table : PolicyTable} (table' : PolicyTable)
    {nodeId : String} {done : List Stmt} {rest : Code Reply} {reply : Reply}
    (hpast : ∀ before ∈ past, before ∈ past') (hrest : rest = .ret reply)
    (h : Reading past table nodeId done rest) : Reading past' table' nodeId done rest := by
  cases h with
  | begun =>
      rw [code_effectiveAgentConfig] at hrest
      cases hrest
  | ended config before hbefore hsent => exact .ended config before (hpast before hbefore) hsent
  | _ => cases hrest

theorem Reading.sent_mem {past : List PolicyTable} {table : PolicyTable} {nodeId : String} {t : Call}
    {config : AgentConfig} (hresult : t.result = some (.config config))
    (h : Reading past table nodeId t.done t.rest) :
    sent config ∈ past.map fun table => current table nodeId := by
  unfold Thread.result at hresult
  generalize t.done = done at h
  generalize t.rest = rest at h hresult
  cases h with
  | begun =>
      rw [code_effectiveAgentConfig] at hresult
      cases hresult
  | ended config' before hbefore hsent =>
      obtain rfl : config' = config := by simpa using hresult
      exact List.mem_map.mpr ⟨before, hbefore, hsent.symm⟩
  | _ => cases hresult

/-! ### Where a save stands -/

def saveCode (scope nodeId : String) (policy : AgentConfigPolicy) : Code Reply := do
  let result ← saveAgentConfigPolicy scope nodeId policy
  pure (.saved result)

def lastSave (scope nodeId : String) (policy : AgentConfigPolicy) (version now : Int) : Code Reply :=
  .call (.upsertPolicy scope nodeId policy version now) fun _ => .ret (.saved (.ok ()))

def afterClock (scope nodeId : String) (policy : AgentConfigPolicy) (now : Int) : Code Reply :=
  .call .selectMaxVersion fun greatest : Option Int =>
    lastSave scope nodeId policy (greatest.getD agentConfigVersion + 1) now

theorem saveCode_of_valid {scope nodeId : String} {policy : AgentConfigPolicy}
    (hvalid : Users.validatePolicy policy = .ok ()) :
    saveCode scope nodeId policy
      = .call .nowUnixSecs fun now : Int => afterClock scope nodeId policy now := by
  unfold saveCode saveAgentConfigPolicy
  rw [hvalid]
  rfl

theorem saveCode_of_invalid {scope nodeId : String} {policy : AgentConfigPolicy} {message : String}
    (hinvalid : Users.validatePolicy policy = .error message) :
    saveCode scope nodeId policy = .ret (.saved (.error message)) := by
  unfold saveCode saveAgentConfigPolicy
  rw [hinvalid]
  rfl

/-- A save that has read the greatest version is about to write the next one of the table. -/
inductive Saving (table : PolicyTable) (scope nodeId : String) (policy : AgentConfigPolicy) :
    List Stmt → Code Reply → Prop where
  | begun : Saving table scope nodeId policy [] (saveCode scope nodeId policy)
  | clock (now : Int) :
      Saving table scope nodeId policy [.nowUnixSecs] (afterClock scope nodeId policy now)
  | numbered (now : Int) :
      Saving table scope nodeId policy [.selectMaxVersion, .nowUnixSecs]
        (lastSave scope nodeId policy (freshVersion table) now)
  | ended (done : List Stmt) (reply : Reply) : Saving table scope nodeId policy done (.ret reply)

theorem Saving.own {db : PolicyDb} {scope nodeId : String} {policy : AgentConfigPolicy}
    {done : List Stmt} {op : Stmt} {next : op.Answer → Code Reply} {rest : Code Reply}
    (hrest : rest = .call op next) (h : Saving db.agentConfigPolicies scope nodeId policy done rest) :
    Reads op ∧ Saving db.agentConfigPolicies scope nodeId policy (op :: done) (next (op.exec db).1) ∨
      ∃ now, op = .upsertPolicy scope nodeId policy (freshVersion db.agentConfigPolicies) now ∧
        ∃ reply, next (op.exec db).1 = .ret reply := by
  cases h with
  | begun =>
      cases hvalid : Users.validatePolicy policy with
      | error message =>
          rw [saveCode_of_invalid hvalid] at hrest
          cases hrest
      | ok _ =>
          rw [saveCode_of_valid hvalid] at hrest
          injection hrest with hop hnext
          subst hop
          obtain rfl := eq_of_heq hnext
          exact .inl ⟨fun _ => rfl, .clock db.clock⟩
  | clock now =>
      injection hrest with hop hnext
      subst hop
      obtain rfl := eq_of_heq hnext
      exact .inl ⟨fun _ => rfl, .numbered now⟩
  | numbered now =>
      injection hrest with hop hnext
      subst hop
      obtain rfl := eq_of_heq hnext
      exact .inr ⟨now, rfl, _, rfl⟩
  | ended done reply => cases hrest

theorem Saving.kept {table table' : PolicyTable} {scope nodeId : String} {policy : AgentConfigPolicy}
    {done : List Stmt} {rest : Code Reply}
    (hkeep : .selectMaxVersion ∈ done → freshVersion table' = freshVersion table)
    (h : Saving table scope nodeId policy done rest) : Saving table' scope nodeId policy done rest := by
  cases h with
  | begun => exact .begun
  | clock now => exact .clock now
  | numbered now =>
      rw [← hkeep (by simp)]
      exact .numbered now
  | ended done reply => exact .ended done reply

/-! ### The invariant -/

/-- All tables that there have been, the present one included. -/
def remember (stmt : Stmt) (db : PolicyDb) (past : List PolicyTable) : List PolicyTable :=
  past ++ [(stmt.exec db).2.agentConfigPolicies]

structure Versioned (past : List PolicyTable) (db : PolicyDb) : Prop where
  now : db.agentConfigPolicies ∈ past
  within : Within (freshVersion db.agentConfigPolicies) db.agentConfigPolicies
  read : ∀ nodeId, Stamped.ReadOff (current db.agentConfigPolicies nodeId)
    (past.map fun table => current table nodeId)

/-- Where a call stands, by its request. -/
def Stands (past : List PolicyTable) (db : PolicyDb) (t : Call) : Prop :=
  match t.request with
  | .effectiveAgentConfig nodeId => Reading past db.agentConfigPolicies nodeId t.done t.rest
  | .saveGlobalPolicy policy => Saving db.agentConfigPolicies "global" "" policy t.done t.rest
  | .saveNodePolicy nodeId policy => Saving db.agentConfigPolicies "node" nodeId policy t.done t.rest

theorem Versioned.unchanged {past : List PolicyTable} {db : PolicyDb} (h : Versioned past db)
    {stmt : Stmt} (hreads : Reads stmt) : Versioned (remember stmt db past) (stmt.exec db).2 := by
  unfold remember
  rw [hreads.exec]
  refine ⟨List.mem_append_left _ h.now, h.within, fun nodeId => ?_⟩
  rw [List.map_append]
  exact (h.read nodeId).read

theorem Versioned.saved {past : List PolicyTable} {db : PolicyDb} (h : Versioned past db)
    (scope nodeId : String) (policy : AgentConfigPolicy) (now : Int) :
    Versioned
      (remember (.upsertPolicy scope nodeId policy (freshVersion db.agentConfigPolicies) now) db past)
      ((Stmt.upsertPolicy scope nodeId policy (freshVersion db.agentConfigPolicies) now).exec db).2 where
  now := List.mem_append_right _ (List.mem_singleton_self _)
  within := (h.within.upsertPolicy le_rfl).fresh
  read node := by
    unfold remember
    rw [List.map_append]
    exact ((h.read node).advance (current_advances h.within le_rfl node)).read

/-- A call's own step: the table stays, or a save writes the next version. -/
theorem stands_own {past : List PolicyTable} {db : PolicyDb} {t : Call} {op : Stmt}
    {next : op.Answer → Code Reply} (hrest : t.rest = .call op next) (hnow : db.agentConfigPolicies ∈ past)
    (h : Stands past db t) :
    (Reads op ∨ ∃ scope nodeId policy now,
          op = .upsertPolicy scope nodeId policy (freshVersion db.agentConfigPolicies) now) ∧
      Stands (remember op db past) (op.exec db).2
        { t with rest := next (op.exec db).1, done := op :: t.done } := by
  have hsave : ∀ scope nodeId policy,
      Saving db.agentConfigPolicies scope nodeId policy t.done t.rest →
        (Reads op ∨ ∃ scope nodeId policy now,
            op = .upsertPolicy scope nodeId policy (freshVersion db.agentConfigPolicies) now) ∧
          Saving (op.exec db).2.agentConfigPolicies scope nodeId policy (op :: t.done)
            (next (op.exec db).1) := by
    intro scope nodeId policy hsaving
    rcases hsaving.own hrest with ⟨hreads, hmoved⟩ | ⟨now, hop, reply, hended⟩
    · rw [hreads.exec]
      exact ⟨.inl hreads, hmoved⟩
    · rw [hended]
      exact ⟨.inr ⟨scope, nodeId, policy, now, hop⟩, .ended _ reply⟩
  unfold Stands at h ⊢
  dsimp only
  cases hrequest : t.request with
  | effectiveAgentConfig nodeId =>
      rw [hrequest] at h
      obtain ⟨hreads, hmoved⟩ := Reading.own hnow hrest h
      refine ⟨.inl hreads, ?_⟩
      dsimp only
      rw [hreads.exec]
      exact hmoved.kept (fun before hbefore => List.mem_append_left _ hbefore) fun _ _ _ _ => rfl
  | saveGlobalPolicy policy =>
      rw [hrequest] at h
      exact hsave "global" "" policy h
  | saveNodePolicy nodeId policy =>
      rw [hrequest] at h
      exact hsave "node" nodeId policy h

/-- Others leave a call where it stands, if they write neither between its two reads of a row nor between
its reading of the greatest version and its end. -/
theorem stands_other {past : List PolicyTable} {db : PolicyDb} {t : Call} {op : Stmt}
    (hwindow : t.result = none → ∀ scope nodeId,
      .selectPolicy scope nodeId ∈ t.done → .selectVersion scope nodeId ∉ t.done →
        (op.exec db).2.agentConfigPolicies.find? (scope, nodeId)
          = db.agentConfigPolicies.find? (scope, nodeId))
    (hnumber : t.result = none → .selectMaxVersion ∈ t.done →
      (op.exec db).2.agentConfigPolicies = db.agentConfigPolicies)
    (h : Stands past db t) : Stands (remember op db past) (op.exec db).2 t := by
  have hpast : ∀ before ∈ past, before ∈ remember op db past :=
    fun before hbefore => List.mem_append_left _ hbefore
  have hsave : ∀ scope nodeId policy,
      Saving db.agentConfigPolicies scope nodeId policy t.done t.rest →
        Saving (op.exec db).2.agentConfigPolicies scope nodeId policy t.done t.rest := by
    intro scope nodeId policy hsaving
    cases hrest : t.rest with
    | ret reply => exact .ended _ reply
    | call stmt next =>
        have hunfinished : t.result = none := by
          unfold Thread.result
          rw [hrest]
        rw [hrest] at hsaving
        exact hsaving.kept fun hdone => by rw [hnumber hunfinished hdone]
  unfold Stands at h ⊢
  cases hrequest : t.request with
  | effectiveAgentConfig nodeId =>
      rw [hrequest] at h
      cases hrest : t.rest with
      | ret reply =>
          have hended := h.kept_of_ret (op.exec db).2.agentConfigPolicies hpast hrest
          rwa [hrest] at hended
      | call stmt next =>
          have hunfinished : t.result = none := by
            unfold Thread.result
            rw [hrest]
          have hkept := h.kept hpast (hwindow hunfinished)
          rwa [hrest] at hkept
  | saveGlobalPolicy policy =>
      rw [hrequest] at h
      exact hsave "global" "" policy h
  | saveNodePolicy nodeId policy =>
      rw [hrequest] at h
      exact hsave "node" nodeId policy h

theorem threadwise_step (c : Server) (past : List PolicyTable) (e : Event Request Int)
    (h : System.Threadwise Versioned Stands past c) (hok : Undisturbed c e) :
    System.Threadwise Versioned Stands (System.noted remember c e past) (server.apply c e) := by
  refine System.threadwise_apply ?_ ?_ ?_ ?_ ?_ ?_ c past e h hok
  · intro past db request hinv
    cases request with
    | effectiveAgentConfig nodeId => exact Reading.begun
    | saveGlobalPolicy policy => exact Saving.begun
    | saveNodePolicy nodeId policy => exact Saving.begun
  · intro past c index t op next hall hok hget hlive hrest hstands
    obtain ⟨htable, hmoved⟩ := stands_own hrest hall.shared.now hstands
    refine ⟨?_, hmoved⟩
    rcases htable with hreads | ⟨scope, nodeId, policy, now, rfl⟩
    · exact hall.shared.unchanged hreads
    · exact hall.shared.saved scope nodeId policy now
  · intro past c index t op next other t' hall hok hget hlive hrest hne hget' hstays
    have hhere := hall.threads other t' hget' hstays
    have hmover := hall.threads index t hget (Thread.not_abandoned_of_live hlive)
    rcases (stands_own hrest hall.shared.now hmover).1 with hreads | ⟨scope, nodeId, policy, now, rfl⟩
    · have hsame := hreads.exec c.shared
      exact stands_other (fun _ _ _ _ _ => by rw [hsame]) (fun _ _ => by rw [hsame]) hhere
    · have hquiet := hok t scope nodeId policy _ now next hget hlive hrest other t' hne hget'
      have hliveOther : t'.result = none → t'.dropped = false := by
        intro hunfinished
        by_contra hdropped
        exact hstays ⟨Bool.eq_true_of_not_eq_false hdropped, hunfinished⟩
      refine stands_other ?_ ?_ hhere
      · intro hunfinished scope' node' hpolicy hversion
        have hbetween := (hquiet (hliveOther hunfinished)).1
        change (upsertPolicy _ _ _ _ _ _).find? _ = _
        rw [find?_upsertPolicy]
        refine if_neg fun hkey => hbetween ?_
        obtain ⟨rfl, rfl⟩ := Prod.mk.inj hkey
        exact ⟨hpolicy, hversion⟩
      · intro hunfinished hdone
        refine absurd ⟨hdone, ?_⟩ (hquiet (hliveOther hunfinished)).2
        rw [hunfinished]
        rfl
  · intro past db t hstands
    exact hstands
  · intro past db clock hinv
    exact ⟨hinv.now, hinv.within, hinv.read⟩
  · intro past db clock t hinv hstands
    exact hstands

/-! ### Versions are obtained once -/

/-- A version that has been obtained was obtained once, and lies below the next one. -/
def Counted (c : Server) : Prop :=
  ∀ version, System.performedCount (obtains version) c ≤ 1 ∧
    (0 < System.performedCount (obtains version) c → version < freshVersion c.shared.agentConfigPolicies)

theorem counted_step (c : Server) (past : List PolicyTable) (e : Event Request Int)
    (h : System.Threadwise Versioned Stands past c) (hcounted : Counted c) :
    Counted (server.apply c e) := by
  intro version
  obtain ⟨hone, hbelow⟩ := hcounted version
  rw [System.performedCount_apply]
  rcases System.apply_cases (M := server) c e with ⟨request, -, hnone, heq⟩ |
    ⟨index, t, op, next, -, hget, hlive, hrest, hperf, heq⟩ | ⟨index, t, -, -, hnone, heq⟩ |
    ⟨clock, -, hnone, heq⟩ | ⟨hnone, heq⟩
  · simp only [hnone, heq]
    exact ⟨hone, hbelow⟩
  · have hhere := h.threads index t hget (Thread.not_abandoned_of_live hlive)
    simp only [hperf, heq]
    rcases (stands_own hrest h.shared.now hhere).1 with hreads | ⟨scope, nodeId, policy, now, rfl⟩
    · change _ ∧ (_ → version < freshVersion (op.exec c.shared).2.agentConfigPolicies)
      rw [hreads version, hreads.exec]
      exact ⟨hone, hbelow⟩
    · change _ ∧ (_ → version < freshVersion (upsertPolicy c.shared.agentConfigPolicies scope nodeId
        policy (freshVersion c.shared.agentConfigPolicies) now))
      have hgrows := freshVersion_upsertPolicy c.shared.agentConfigPolicies scope nodeId policy
        (freshVersion c.shared.agentConfigPolicies) now
      by_cases hversion : freshVersion c.shared.agentConfigPolicies = version
      · have hobtains : obtains version (.upsertPolicy scope nodeId policy
            (freshVersion c.shared.agentConfigPolicies) now) = true := decide_eq_true hversion
        rw [if_pos hobtains]
        omega
      · have hobtains : ¬ obtains version (.upsertPolicy scope nodeId policy
            (freshVersion c.shared.agentConfigPolicies) now) = true := by
          simpa [obtains] using hversion
        rw [if_neg hobtains]
        omega
  · simp only [hnone, heq]
    exact ⟨hone, hbelow⟩
  · simp only [hnone, heq]
    exact ⟨hone, hbelow⟩
  · simp only [hnone, heq]
    exact ⟨hone, hbelow⟩

/-! ### The results -/

theorem oneContent_of_threadwise {c : Server} {past : List PolicyTable}
    (h : System.Threadwise Versioned Stands past c) : OneContent c := by
  intro t ht t' ht' nodeId config config' hrequest hrequest' hresult hresult' hversion
  have hread : ∀ t ∈ c.threads, ∀ config, t.request = .effectiveAgentConfig nodeId →
      t.result = some (.config config) → sent config ∈ past.map fun table => current table nodeId := by
    intro t ht config hrequest hresult
    have hstands := h.of_mem ht (Thread.not_abandoned_of_result hresult)
    unfold Stands at hstands
    rw [hrequest] at hstands
    exact Reading.sent_mem hresult hstands
  exact (h.shared.read nodeId).coherent _ (hread t ht config hrequest hresult) _
    (hread t' ht' config' hrequest' hresult') hversion

def halfMinute : AgentConfigPolicy := { heartbeatIntervalSecs := some 30 }

/-! A run that meets the condition: a policy is saved, and then a configuration is put together. -/

theorem undisturbed_alone {c : Server} (hlength : c.threads.length ≤ 1) (index : Nat) :
    Undisturbed c (.step index) := by
  intro t scope nodeId policy version updatedAt next hget hlive hrest other t' hne hget'
  have hindex : index < c.threads.length := (List.getElem?_eq_some_iff.mp hget).1
  have hother : other < c.threads.length := (List.getElem?_eq_some_iff.mp hget').1
  omega

def saveAlone : List (Event Request Int) :=
  [.spawn (.saveGlobalPolicy halfMinute), .step 0, .step 0, .step 0, .spawn (.effectiveAgentConfig "node-1")]

/-- A save between the two reads of the global policy, and a second configuration after it. -/
def tornRead : List (Event Request Int) :=
  [.spawn (.effectiveAgentConfig "node-1"), .step 0, .step 0,
    .spawn (.saveGlobalPolicy halfMinute), .step 1, .step 1, .step 1, .step 0, .step 0, .step 0,
    .spawn (.effectiveAgentConfig "node-1"), .step 2, .step 2, .step 2, .step 2, .step 2]

/-- Two saves that read the greatest version before either writes. -/
def equalNumbers : List (Event Request Int) :=
  [.spawn (.saveGlobalPolicy halfMinute), .spawn (.saveNodePolicy "node-1" halfMinute), .step 0, .step 0,
    .step 1, .step 1, .step 0, .step 1]

end LightAI.PolicyRaces
