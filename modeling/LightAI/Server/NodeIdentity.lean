import LightAI.Base.Threadwise
import LightAI.Base.Upsert
import LightAI.Server.Nodes

/-!
# The identity of nodes

Registrations and heartbeats, one transaction at a time in any order. A name and a host name belong
together for ever, under one id, and the token of the last registration is the one that counts.
-/

namespace LightAI.Nodes

open Interleaving

inductive Stmt where
  | nowUnixSecs
  | tryRegister (request : RegisterRequest) (now : Int) (token newId : String)
  | authenticateNode (nodeId token : String)
  | recordHeartbeat (request : HeartbeatRequest)

abbrev Stmt.Answer : Stmt → Type
  | nowUnixSecs => Int
  | tryRegister _ _ _ _ => Except String String
  | authenticateNode _ _ => Bool
  | recordHeartbeat _ => Unit

def Stmt.exec (auth : TokenHash) : (stmt : Stmt) → NodesDb → stmt.Answer × NodesDb
  | nowUnixSecs, db => (db.clock, db)
  | tryRegister request now token newId, db => Nodes.tryRegister auth request now token newId db
  | authenticateNode nodeId token, db => (Nodes.authenticateNode auth db nodeId token, db)
  | recordHeartbeat request, db => ((), Nodes.recordHeartbeat request db)

abbrev Code := Program Stmt Stmt.Answer

/-- A registration, with the token and the ids that chance gives it. -/
structure Registration where
  request : RegisterRequest
  token : String
  newId : String
  retryId : String
  deriving DecidableEq

/-- The loop over two attempts. -/
def registerNode (registration : Registration) : Code (Except String String) := do
  let now ← .perform Stmt.nowUnixSecs
  let first ← .perform
    (Stmt.tryRegister registration.request now registration.token registration.newId)
  match (first : Except String String) with
  | .ok nodeId => pure (.ok nodeId)
  | .error message =>
      if isUniqueViolation message then
        .perform (Stmt.tryRegister registration.request now registration.token registration.retryId)
      else pure (.error message)

def agentHeartbeat (token : String) (request : HeartbeatRequest) : Code Bool := do
  let accepted ← .perform (Stmt.authenticateNode request.nodeId token)
  if (accepted : Bool) then
    .perform (Stmt.recordHeartbeat request)
    pure true
  else pure false

inductive Request where
  | registerAgent (registration : Registration)
  | agentHeartbeat (token : String) (request : HeartbeatRequest)
  deriving DecidableEq

inductive Reply where
  | registered (result : Except String String)
  | heard (accepted : Bool)
  deriving DecidableEq

def Request.code : Request → Code Reply
  | registerAgent registration => do
      let result ← registerNode registration
      pure (.registered result)
  | agentHeartbeat token request => do
      let accepted ← Nodes.agentHeartbeat token request
      pure (.heard accepted)

/-- The requests over one database, whose clock somebody sets. -/
def registry (auth : TokenHash) : System Request Int Stmt Stmt.Answer NodesDb Reply where
  handle := Request.code
  exec := Stmt.exec auth
  act clock db := { db with clock }

abbrev Registry := Config Request Stmt Stmt.Answer NodesDb Reply

abbrev RegistryEvent := Interleaving.Event Request Int

abbrev Call := Thread Request Stmt Stmt.Answer Reply

/-- The tokens of the last committed registrations, by node. -/
abbrev Issued := String → Option String

def issue (auth : TokenHash) (stmt : Stmt) (db : NodesDb) (issued : Issued) : Issued :=
  match stmt with
  | .tryRegister request now token newId =>
      match (Nodes.tryRegister auth request now token newId db).1 with
      | .ok nodeId => Function.update issued nodeId (some token)
      | .error _ => issued
  | _ => issued

/-! ### What is asked of the registrations -/

/-- Names and host names determine each other. -/
def NamesDetermined (db : NodesDb) : Prop :=
  ∀ row ∈ db.nodes.rows, ∀ row' ∈ db.nodes.rows, row.name = row'.name ↔ row.hostname = row'.hostname

/-- The nodes of `db` are there in `db'`, with their ids. -/
def KeepsIds (db db' : NodesDb) : Prop :=
  ∀ row ∈ db.nodes.rows, ∃ row' ∈ db'.nodes.rows,
    row'.id = row.id ∧ row'.name = row.name ∧ row'.hostname = row.hostname

/-- The name or the host name is another node's. -/
def Conflicts (db : NodesDb) (request : RegisterRequest) : Prop :=
  ∃ row ∈ db.nodes.rows, (row.name = request.name ∧ row.hostname ≠ request.hostname) ∨
    (row.hostname = request.hostname ∧ row.name ≠ request.name)

/-- The token that authenticates is the one that was issued last. -/
def OnlyIssued (auth : TokenHash) (issued : Issued) (db : NodesDb) : Prop :=
  ∀ nodeId token, authenticateNode auth db nodeId token = true ↔ issued nodeId = some token

/-- No registration in conflict with the table has been answered with an id, and an answered one has the id
of its node. -/
def AnswersFit (c : Registry) : Prop :=
  ∀ t ∈ c.threads, ∀ registration nodeId, t.request = .registerAgent registration →
    t.result = some (.registered (.ok nodeId)) →
      ¬ Conflicts c.shared registration.request ∧
        ∃ row ∈ c.shared.nodes.rows, row.id = nodeId ∧ row.name = registration.request.name ∧
          row.hostname = registration.request.hostname

/-- A transaction that registers in conflict with the table is refused and changes nothing. -/
def Refuses (auth : TokenHash) (c : Registry) (e : RegistryEvent) : Prop :=
  ∀ t request now token newId,
    System.performed c e = some (t, .tryRegister request now token newId) →
      Conflicts c.shared request →
        (∃ message, ((Stmt.tryRegister request now token newId).exec auth c.shared).1 = .error message) ∧
          ((registry auth).apply c e).shared = c.shared

/-! ### The transaction -/

/-- No two rows share a name or a host name. -/
def Distinct (db : NodesDb) : Prop :=
  ∀ row ∈ db.nodes.rows, ∀ row' ∈ db.nodes.rows,
    row.name = row'.name ∨ row.hostname = row'.hostname → row = row'

theorem Distinct.namesDetermined {db : NodesDb} (h : Distinct db) : NamesDetermined db := by
  intro row hrow row' hrow'
  constructor
  · intro hname
    rw [h row hrow row' hrow' (.inl hname)]
  · intro hhost
    rw [h row hrow row' hrow' (.inr hhost)]

theorem conflicts_of_nameConflict {db : NodesDb} {request : RegisterRequest} {row : Node}
    (h : nameConflict db request = some row) : Conflicts db request := by
  have hmatch := List.find?_some h
  simp only [Bool.and_eq_true, decide_eq_true_eq] at hmatch
  exact ⟨row, List.mem_of_find?_eq_some h, .inl hmatch⟩

theorem conflicts_of_hostnameConflict {db : NodesDb} {request : RegisterRequest} {row : Node}
    (h : hostnameConflict db request = some row) : Conflicts db request := by
  have hmatch := List.find?_some h
  simp only [Bool.and_eq_true, decide_eq_true_eq] at hmatch
  exact ⟨row, List.mem_of_find?_eq_some h, .inr hmatch⟩

theorem not_conflicts {db : NodesDb} {request : RegisterRequest} (hname : nameConflict db request = none)
    (hhost : hostnameConflict db request = none) : ¬ Conflicts db request := by
  rintro ⟨row, hrow, ⟨hsame, hother⟩ | ⟨hsame, hother⟩⟩
  · have hnot := List.find?_eq_none.mp hname row hrow
    simp [hsame, hother] at hnot
  · have hnot := List.find?_eq_none.mp hhost row hrow
    simp [hsame, hother] at hnot

/-- With no conflict, whoever shares a name or the host name with the request is its own node. -/
theorem own_of_not_conflicts {db : NodesDb} {request : RegisterRequest} (h : ¬ Conflicts db request)
    {row : Node} (hrow : row ∈ db.nodes.rows)
    (hshares : row.name = request.name ∨ row.hostname = request.hostname) :
    row.name = request.name ∧ row.hostname = request.hostname := by
  rcases hshares with hname | hhost
  · refine ⟨hname, ?_⟩
    by_contra hother
    exact h ⟨row, hrow, .inl ⟨hname, hother⟩⟩
  · refine ⟨?_, hhost⟩
    by_contra hother
    exact h ⟨row, hrow, .inr ⟨hhost, hother⟩⟩

/-- What a committed registration does: one row is written, and every row that shares a name or the host
name with it was there under its id. -/
structure Committed (auth : TokenHash) (request : RegisterRequest) (token nodeId : String)
    (db db' : NodesDb) : Prop where
  conflictFree : ¬ Conflicts db request
  written : ∃ row : Node, row.name = request.name ∧ row.hostname = request.hostname ∧ row.id = nodeId ∧
    row.tokenHash = auth.hashToken token ∧
    ∀ id, db'.nodes.find? id = if id = nodeId then some row else db.nodes.find? id
  own : ∀ row ∈ db.nodes.rows,
    (row.name = request.name ∨ row.hostname = request.hostname ↔ row.id = nodeId)

theorem upsertNode_ok {db : NodesDb} {row : Node}
    (hname : ∀ other ∈ db.nodes.rows, other.name = row.name → other.id = row.id)
    (hhost : ∀ other ∈ db.nodes.rows, other.hostname = row.hostname → other.id = row.id) :
    upsertNode db row = .ok { db with
      nodes := db.nodes.upsert row (·.reregistered row) (Node.reregistered_id row) } := by
  have hnoName : (db.nodes.rows.any fun other => other.id ≠ row.id && other.name = row.name) = false := by
    rw [List.any_eq_false]
    intro other hother hboth
    simp only [Bool.and_eq_true, decide_eq_true_eq] at hboth
    exact hboth.1 (hname other hother hboth.2)
  have hnoHost : (db.nodes.rows.any fun other => other.id ≠ row.id && other.hostname = row.hostname)
      = false := by
    rw [List.any_eq_false]
    intro other hother hboth
    simp only [Bool.and_eq_true, decide_eq_true_eq] at hboth
    exact hboth.1 (hhost other hother hboth.2)
  unfold upsertNode
  rw [hnoName, hnoHost]
  rfl

theorem upsertNode_committed (auth : TokenHash) (token : String) (row : Node)
    {request : RegisterRequest} {db : NodesDb} (hfree : ¬ Conflicts db request) (hname : row.name = request.name)
    (hhost : row.hostname = request.hostname) (hhash : row.tokenHash = auth.hashToken token)
    (hown : ∀ other ∈ db.nodes.rows,
      (other.name = request.name ∨ other.hostname = request.hostname ↔ other.id = row.id)) :
    ∃ db', upsertNode db row = .ok db' ∧ Committed auth request token row.id db db' := by
  refine ⟨_, upsertNode_ok ?_ ?_, hfree, ?_, hown⟩
  · intro other hother hsame
    exact (hown other hother).mp (.inl (hsame.trans hname))
  · intro other hother hsame
    exact (hown other hother).mp (.inr (hsame.trans hhost))
  · refine ⟨((db.nodes.find? row.id).map (·.reregistered row)).getD row, ?_, ?_, ?_, ?_, fun id => ?_⟩
    · cases db.nodes.find? row.id with
      | none => exact hname
      | some old => exact hname
    · cases db.nodes.find? row.id with
      | none => exact hhost
      | some old => exact hhost
    · cases hold : db.nodes.find? row.id with
      | none => rfl
      | some old =>
          have hid : old.id = row.id := Table.find?_key hold
          exact hid
    · cases db.nodes.find? row.id with
      | none => exact hhash
      | some old => exact hhash
    · exact Table.find?_upsert db.nodes row (·.reregistered row) (Node.reregistered_id row) id

/-- The row of the node that the request itself names. -/
def existingNode (db : NodesDb) (request : RegisterRequest) : Option Node :=
  db.nodes.rows.find? fun row => row.name = request.name && row.hostname = request.hostname

theorem own_existing {db : NodesDb} {request : RegisterRequest} {newId : String}
    (hdistinct : Distinct db) (hfresh : db.nodes.find? newId = none) (hfree : ¬ Conflicts db request) :
    ∀ other ∈ db.nodes.rows, (other.name = request.name ∨ other.hostname = request.hostname ↔
      other.id = ((existingNode db request).map (·.id)).getD newId) := by
  intro other hother
  cases hexisting : existingNode db request with
  | none =>
      constructor
      · intro hshares
        obtain ⟨hname, hhost⟩ := own_of_not_conflicts hfree hother hshares
        have hnot := List.find?_eq_none.mp hexisting other hother
        simp [hname, hhost] at hnot
      · intro hid
        exact absurd hid (Table.find?_eq_none_iff.mp hfresh other hother)
  | some existing =>
      have hmem := List.mem_of_find?_eq_some hexisting
      have hmatch := List.find?_some hexisting
      simp only [Bool.and_eq_true, decide_eq_true_eq] at hmatch
      constructor
      · intro hshares
        have hname := (own_of_not_conflicts hfree hother hshares).1
        rw [hdistinct other hother existing hmem (.inl (hname.trans hmatch.1.symm))]
        rfl
      · intro hid
        have hsame : other = existing := by
          have hother' := Table.find?_of_mem hother
          rw [show other.id = existing.id from hid, Table.find?_of_mem hmem] at hother'
          exact (Option.some.inj hother').symm
        rw [hsame]
        exact .inl hmatch.1

/-- Where rows are distinct and the new id is nobody's, the transaction commits unless there is a
conflict. -/
theorem tryRegister_spec (auth : TokenHash) (request : RegisterRequest) (now : Int)
    (token newId : String) {db : NodesDb} (hdistinct : Distinct db)
    (hfresh : db.nodes.find? newId = none) :
    (Conflicts db request ∧ ∃ message,
        tryRegister auth request now token newId db = (.error message, db)) ∨
      ∃ nodeId db', tryRegister auth request now token newId db = (.ok nodeId, db') ∧
        Committed auth request token nodeId db db' := by
  unfold tryRegister
  cases hname : nameConflict db request with
  | some conflict => exact .inl ⟨conflicts_of_nameConflict hname, _, rfl⟩
  | none =>
      cases hhost : hostnameConflict db request with
      | some conflict => exact .inl ⟨conflicts_of_hostnameConflict hhost, _, rfl⟩
      | none =>
          right
          have hfree := not_conflicts hname hhost
          obtain ⟨db', hupsert, hcommitted⟩ := upsertNode_committed auth token
              { id := ((existingNode db request).map (·.id)).getD newId
                name := request.name
                hostname := request.hostname
                agentVersion := request.agentVersion
                os := request.os
                arch := request.arch
                tokenHash := auth.hashToken token
                tokenPrefix := tokenPrefix token
                registeredAt := now
                updatedAt := now }
            hfree rfl rfl rfl (own_existing hdistinct hfresh hfree)
          refine ⟨_, db', ?_, hcommitted⟩
          unfold existingNode at hupsert
          dsimp only
          rw [hupsert]
          rfl

/-! ### What a commit keeps -/

theorem Committed.find? {auth : TokenHash} {request : RegisterRequest} {token nodeId : String}
    {db db' : NodesDb} (h : Committed auth request token nodeId db db') {row : Node}
    (hrow : row ∈ db'.nodes.rows) :
    (row.id = nodeId ∧ row.name = request.name ∧ row.hostname = request.hostname ∧
        row.tokenHash = auth.hashToken token) ∨ (row ∈ db.nodes.rows ∧ row.id ≠ nodeId) := by
  obtain ⟨written, hname, hhost, hid, hhash, hfind⟩ := h.written
  have hfound := Table.find?_of_mem hrow
  rw [hfind] at hfound
  split at hfound
  · rw [← Option.some.inj hfound]
    exact .inl ⟨hid, hname, hhost, hhash⟩
  · exact .inr ⟨Table.find?_mem hfound, ‹_›⟩

theorem Committed.distinct {auth : TokenHash} {request : RegisterRequest} {token nodeId : String}
    {db db' : NodesDb} (h : Committed auth request token nodeId db db') (hdistinct : Distinct db) :
    Distinct db' := by
  have hsameId : ∀ row ∈ db'.nodes.rows, ∀ row' ∈ db'.nodes.rows, row.id = row'.id → row = row' := by
    intro row hrow row' hrow' hid
    have hfound := Table.find?_of_mem hrow
    rw [hid, Table.find?_of_mem hrow'] at hfound
    exact (Option.some.inj hfound).symm
  intro row hrow row' hrow' hshares
  rcases h.find? hrow with ⟨hid, hname, hhost, -⟩ | ⟨hold, hne⟩
  · rcases h.find? hrow' with ⟨hid', -, -, -⟩ | ⟨hold', hne'⟩
    · exact hsameId row hrow row' hrow' (hid.trans hid'.symm)
    · rw [hname, hhost] at hshares
      exact absurd ((h.own row' hold').mp (hshares.imp Eq.symm Eq.symm)) hne'
  · rcases h.find? hrow' with ⟨-, hname', hhost', -⟩ | ⟨hold', -⟩
    · rw [hname', hhost'] at hshares
      exact absurd ((h.own row hold).mp hshares) hne
    · exact hdistinct row hold row' hold' hshares

theorem Committed.keepsIds {auth : TokenHash} {request : RegisterRequest} {token nodeId : String}
    {db db' : NodesDb} (h : Committed auth request token nodeId db db') : KeepsIds db db' := by
  intro row hrow
  obtain ⟨written, hname, hhost, hid, -, hfind⟩ := h.written
  by_cases hown : row.id = nodeId
  · obtain ⟨hrowName, hrowHost⟩ := own_of_not_conflicts h.conflictFree hrow ((h.own row hrow).mpr hown)
    have hfound : db'.nodes.find? nodeId = some written := by rw [hfind, if_pos rfl]
    exact ⟨written, Table.find?_mem hfound, hid.trans hown.symm, hname.trans hrowName.symm,
      hhost.trans hrowHost.symm⟩
  · have hfound : db'.nodes.find? row.id = some row := by
      rw [hfind, if_neg hown]
      exact Table.find?_of_mem hrow
    exact ⟨row, Table.find?_mem hfound, rfl, rfl, rfl⟩

theorem authenticateNode_eq_true {auth : TokenHash} {db : NodesDb} {nodeId token : String} :
    authenticateNode auth db nodeId token = true ↔
      ∃ row, db.nodes.find? nodeId = some row ∧ auth.hashToken token = row.tokenHash := by
  unfold authenticateNode TokenHash.verifyToken
  cases db.nodes.find? nodeId with
  | none => simp
  | some row => simp

theorem Committed.onlyIssued {auth : TokenHash} (hinjective : Function.Injective auth.hashToken)
    {request : RegisterRequest} {token nodeId : String} {db db' : NodesDb}
    (h : Committed auth request token nodeId db db') {issued : Issued}
    (hissued : OnlyIssued auth issued db) :
    OnlyIssued auth (Function.update issued nodeId (some token)) db' := by
  obtain ⟨written, -, -, -, hhash, hfind⟩ := h.written
  intro id candidate
  by_cases hid : id = nodeId
  · subst hid
    rw [Function.update_self, authenticateNode_eq_true, hfind, if_pos rfl]
    constructor
    · rintro ⟨row, hrow, hmatch⟩
      rw [← Option.some.inj hrow, hhash] at hmatch
      rw [hinjective hmatch]
    · intro hsame
      refine ⟨written, rfl, ?_⟩
      rw [hhash, Option.some.inj hsame]
  · rw [Function.update_of_ne hid, ← hissued id candidate, authenticateNode_eq_true,
      authenticateNode_eq_true, hfind, if_neg hid]

/-! ### What the other statements keep -/

/-- What identifies a node: the columns that only registrations write. -/
def Node.identity (row : Node) : String × String × String × String :=
  (row.id, row.name, row.hostname, row.tokenHash)

def SameIdentities (db db' : NodesDb) : Prop :=
  ∀ id, (db'.nodes.find? id).map Node.identity = (db.nodes.find? id).map Node.identity

theorem sameIdentities_of_nodes {db db' : NodesDb} (hsame : db'.nodes = db.nodes) :
    SameIdentities db db' := by
  intro id
  rw [hsame]

theorem sameIdentities_recordHeartbeat (request : HeartbeatRequest) (db : NodesDb) :
    SameIdentities db (recordHeartbeat request db) := by
  intro id
  rw [(nodes_recordHeartbeat request db).1, Table.find?_update]
  split
  · rw [Option.map_map]
    rfl
  · rfl

theorem SameIdentities.symm {db db' : NodesDb} (h : SameIdentities db db') : SameIdentities db' db :=
  fun id => (h id).symm

theorem SameIdentities.keepsIds {db db' : NodesDb} (h : SameIdentities db db') : KeepsIds db db' := by
  intro row hrow
  have hidentity := h row.id
  rw [Table.find?_of_mem hrow] at hidentity
  obtain ⟨row', hrow', heq⟩ := Option.map_eq_some_iff.mp hidentity
  simp only [Node.identity, Prod.mk.injEq] at heq
  exact ⟨row', Table.find?_mem hrow', heq.1, heq.2.1, heq.2.2.1⟩

theorem SameIdentities.distinct {db db' : NodesDb} (h : SameIdentities db db')
    (hdistinct : Distinct db) : Distinct db' := by
  intro row hrow row' hrow' hshares
  obtain ⟨old, hold, hid, hname, hhost⟩ := h.symm.keepsIds row hrow
  obtain ⟨old', hold', hid', hname', hhost'⟩ := h.symm.keepsIds row' hrow'
  rw [← hname, ← hname', ← hhost, ← hhost'] at hshares
  have hsame : row.id = row'.id := by
    rw [← hid, ← hid', hdistinct old hold old' hold' hshares]
  have hfound := Table.find?_of_mem hrow
  rw [hsame, Table.find?_of_mem hrow'] at hfound
  exact (Option.some.inj hfound).symm

theorem SameIdentities.onlyIssued {auth : TokenHash} {db db' : NodesDb} (h : SameIdentities db db')
    {issued : Issued} (hissued : OnlyIssued auth issued db) : OnlyIssued auth issued db' := by
  have hhashes : ∀ db : NodesDb, ∀ nodeId token, authenticateNode auth db nodeId token = true ↔
      ∃ identity, (db.nodes.find? nodeId).map Node.identity = some identity ∧
        auth.hashToken token = identity.2.2.2 := by
    intro db nodeId token
    rw [authenticateNode_eq_true]
    constructor
    · rintro ⟨row, hrow, hmatch⟩
      exact ⟨row.identity, by rw [hrow]; rfl, hmatch⟩
    · rintro ⟨identity, hidentity, hmatch⟩
      obtain ⟨row, hrow, rfl⟩ := Option.map_eq_some_iff.mp hidentity
      exact ⟨row, hrow, hmatch⟩
  intro nodeId token
  rw [hhashes, h nodeId, ← hhashes]
  exact hissued nodeId token

/-! ### The invariant -/

/-- The ids that chance gives are nobody's. -/
def FreshIds (c : Registry) (e : RegistryEvent) : Prop :=
  ∀ t request now token newId,
    System.performed c e = some (t, .tryRegister request now token newId) →
      c.shared.nodes.find? newId = none

structure Identified (auth : TokenHash) (issued : Issued) (db : NodesDb) : Prop where
  distinct : Distinct db
  onlyIssued : OnlyIssued auth issued db

/-- One statement keeps the nodes with their ids and the invariant. A registration that is answered with an
id has written its row. -/
theorem exec_spec {auth : TokenHash} (hinjective : Function.Injective auth.hashToken) {issued : Issued}
    {db : NodesDb} (h : Identified auth issued db) (stmt : Stmt)
    (hfresh : ∀ request now token newId, stmt = .tryRegister request now token newId →
      db.nodes.find? newId = none) :
    Identified auth (issue auth stmt db issued) (stmt.exec auth db).2 ∧
      KeepsIds db (stmt.exec auth db).2 := by
  have hother : ∀ db', SameIdentities db db' → Identified auth issued db' ∧ KeepsIds db db' :=
    fun db' hsame => ⟨⟨hsame.distinct h.distinct, hsame.onlyIssued h.onlyIssued⟩, hsame.keepsIds⟩
  cases stmt with
  | nowUnixSecs => exact hother db (sameIdentities_of_nodes rfl)
  | authenticateNode nodeId token => exact hother db (sameIdentities_of_nodes rfl)
  | recordHeartbeat request => exact hother _ (sameIdentities_recordHeartbeat request db)
  | tryRegister request now token newId =>
      rcases tryRegister_spec auth request now token newId h.distinct
          (hfresh request now token newId rfl) with
        ⟨-, message, hrefused⟩ | ⟨nodeId, db', hok, hcommitted⟩
      · simp only [issue, Stmt.exec, hrefused]
        exact hother db (sameIdentities_of_nodes rfl)
      · simp only [issue, Stmt.exec, hok]
        exact ⟨⟨hcommitted.distinct h.distinct, hcommitted.onlyIssued hinjective h.onlyIssued⟩,
          hcommitted.keepsIds⟩

/-! ### Where a registration stands -/

def lastAttempt (registration : Registration) (now : Int) : Code Reply :=
  .call (.tryRegister registration.request now registration.token registration.retryId)
    fun result : Except String String => .ret (.registered result)

def afterAttempt (registration : Registration) (now : Int) : Except String String → Code Reply
  | .ok nodeId => .ret (.registered (.ok nodeId))
  | .error message =>
      if isUniqueViolation message then lastAttempt registration now
      else .ret (.registered (.error message))

def firstAttempt (registration : Registration) (now : Int) : Code Reply :=
  .call (.tryRegister registration.request now registration.token registration.newId)
    (afterAttempt registration now)

theorem code_registerAgent (registration : Registration) :
    (Request.registerAgent registration).code
      = .call .nowUnixSecs fun now : Int => firstAttempt registration now := by
  refine congrArg (Program.call Stmt.nowUnixSecs) (funext fun now => ?_)
  refine congrArg (Program.call _) (funext fun first => ?_)
  cases first with
  | ok nodeId => rfl
  | error message =>
      change (if isUniqueViolation message then
            Program.perform
              (Stmt.tryRegister registration.request now registration.token registration.retryId)
          else pure (.error message) : Code (Except String String)) >>= (fun result =>
            pure (Reply.registered result)) = afterAttempt registration now (.error message)
      simp only [afterAttempt]
      cases isUniqueViolation message with
      | false => rfl
      | true => rfl

/-- The node of the registration is in the table, under this id. -/
def HasNode (db : NodesDb) (request : RegisterRequest) (nodeId : String) : Prop :=
  ∃ row ∈ db.nodes.rows, row.id = nodeId ∧ row.name = request.name ∧ row.hostname = request.hostname

theorem KeepsIds.hasNode {db db' : NodesDb} (h : KeepsIds db db') {request : RegisterRequest}
    {nodeId : String} (hnode : HasNode db request nodeId) : HasNode db' request nodeId := by
  obtain ⟨row, hrow, hid, hname, hhost⟩ := hnode
  obtain ⟨row', hrow', hid', hname', hhost'⟩ := h row hrow
  exact ⟨row', hrow', hid'.trans hid, hname'.trans hname, hhost'.trans hhost⟩

theorem Committed.hasNode {auth : TokenHash} {request : RegisterRequest} {token nodeId : String}
    {db db' : NodesDb} (h : Committed auth request token nodeId db db') : HasNode db' request nodeId := by
  obtain ⟨row, hname, hhost, hid, -, hfind⟩ := h.written
  have hfound : db'.nodes.find? nodeId = some row := by rw [hfind, if_pos rfl]
  exact ⟨row, Table.find?_mem hfound, hid, hname, hhost⟩

inductive Registering (db : NodesDb) (registration : Registration) : Code Reply → Prop where
  | begun : Registering db registration (Request.registerAgent registration).code
  | first (now : Int) : Registering db registration (firstAttempt registration now)
  | last (now : Int) : Registering db registration (lastAttempt registration now)
  | refused (message : String) : Registering db registration (.ret (.registered (.error message)))
  | registered (nodeId : String) (hnode : HasNode db registration.request nodeId) :
      Registering db registration (.ret (.registered (.ok nodeId)))

theorem Registering.kept {db db' : NodesDb} (hkeep : KeepsIds db db') {registration : Registration}
    {rest : Code Reply} (h : Registering db registration rest) : Registering db' registration rest := by
  cases h with
  | begun => exact .begun
  | first now => exact .first now
  | last now => exact .last now
  | refused message => exact .refused message
  | registered nodeId hnode => exact .registered nodeId (hkeep.hasNode hnode)

/-- An attempt that is answered with an id has put the node into the table. -/
theorem hasNode_of_ok {auth : TokenHash} {request : RegisterRequest} {now : Int} {token newId : String}
    {db : NodesDb} (hdistinct : Distinct db) (hfresh : db.nodes.find? newId = none) {nodeId : String}
    (hok : (tryRegister auth request now token newId db).1 = .ok nodeId) :
    HasNode (tryRegister auth request now token newId db).2 request nodeId := by
  rcases tryRegister_spec auth request now token newId hdistinct hfresh with
    ⟨-, message, hrefused⟩ | ⟨nodeId', db', hregistered, hcommitted⟩
  · rw [hrefused] at hok
    cases hok
  · rw [hregistered] at hok ⊢
    rw [← Except.ok.inj hok]
    exact hcommitted.hasNode

/-- The registration's own next step. -/
theorem Registering.own {auth : TokenHash} {db : NodesDb} (hdistinct : Distinct db)
    {registration : Registration} {op : Stmt} {next : op.Answer → Code Reply} {rest : Code Reply}
    (hfresh : ∀ request now token newId, op = .tryRegister request now token newId →
      db.nodes.find? newId = none)
    (hrest : rest = .call op next) (h : Registering db registration rest) :
    Registering (op.exec auth db).2 registration (next (op.exec auth db).1) := by
  cases h with
  | begun =>
      rw [code_registerAgent] at hrest
      injection hrest with hop hnext
      subst hop
      obtain rfl := eq_of_heq hnext
      exact .first db.clock
  | first now =>
      injection hrest with hop hnext
      subst hop
      obtain rfl := eq_of_heq hnext
      have hnew := hfresh _ _ _ _ rfl
      simp only [Stmt.exec]
      cases hresult : (tryRegister auth registration.request now registration.token
          registration.newId db).1 with
      | ok nodeId => exact .registered nodeId (hasNode_of_ok hdistinct hnew hresult)
      | error message =>
          simp only [afterAttempt]
          split
          · exact .last now
          · exact .refused message
  | last now =>
      injection hrest with hop hnext
      subst hop
      obtain rfl := eq_of_heq hnext
      have hnew := hfresh _ _ _ _ rfl
      simp only [Stmt.exec]
      cases hresult : (tryRegister auth registration.request now registration.token
          registration.retryId db).1 with
      | ok nodeId => exact .registered nodeId (hasNode_of_ok hdistinct hnew hresult)
      | error message => exact .refused message
  | refused message => cases hrest
  | registered nodeId hnode => cases hrest

def Stands (_ : Issued) (db : NodesDb) (t : Call) : Prop :=
  ∀ registration, t.request = .registerAgent registration → Registering db registration t.rest

/-! ### Runs -/

/-- An empty table and no request under way. -/
def startRegistry (clock : Int) : Registry := ⟨{ clock }, []⟩

/-- The requests, with the tokens issued so far beside them. -/
def identityStep (auth : TokenHash) : Registry × Issued → RegistryEvent → Registry × Issued :=
  Trace.withHistory (registry auth).apply (System.noted (issue auth))

theorem threadwise_registry {auth : TokenHash} (hinjective : Function.Injective auth.hashToken)
    (c : Registry) (issued : Issued) (e : RegistryEvent)
    (h : System.Threadwise (Identified auth) Stands issued c) (hok : FreshIds c e) :
    System.Threadwise (Identified auth) Stands (System.noted (issue auth) c e issued)
      ((registry auth).apply c e) := by
  refine System.threadwise_apply ?_ ?_ ?_ ?_ ?_ ?_ c issued e h hok
  · rintro issued db request hinv registration rfl
    exact .begun
  · intro issued c index t op next hall hok hget hlive hrest hstands
    have hnew : ∀ request now token newId, op = .tryRegister request now token newId →
        c.shared.nodes.find? newId = none := by
      rintro request now token newId rfl
      exact hok t request now token newId (System.performed_step hget hlive hrest)
    refine ⟨(exec_spec hinjective hall.shared op hnew).1, fun registration hrequest => ?_⟩
    exact (hstands registration hrequest).own hall.shared.distinct hnew hrest
  · intro issued c index t op next other t' hall hok hget hlive hrest hne hget' hstays registration hrequest
    have hnew : ∀ request now token newId, op = .tryRegister request now token newId →
        c.shared.nodes.find? newId = none := by
      rintro request now token newId rfl
      exact hok t request now token newId (System.performed_step hget hlive hrest)
    exact (hall.threads other t' hget' hstays registration hrequest).kept
      (exec_spec hinjective hall.shared op hnew).2
  · intro issued db t hstands
    exact hstands
  · intro issued db clock hinv
    exact ⟨hinv.distinct, hinv.onlyIssued⟩
  · intro issued db clock t hinv hstands registration hrequest
    have hsame : SameIdentities db ((registry auth).act clock db) := sameIdentities_of_nodes rfl
    exact (hstands registration hrequest).kept hsame.keepsIds

theorem threadwise_run {auth : TokenHash} (hinjective : Function.Injective auth.hashToken) (clock : Int)
    (events : List RegistryEvent)
    (hfresh : Trace.Along (registry auth).apply FreshIds (startRegistry clock) events) :
    System.Threadwise (Identified auth) Stands
      (Trace.history (registry auth).apply (System.noted (issue auth)) (startRegistry clock)
        (fun _ => none) events)
      ((registry auth).run (startRegistry clock) events) := by
  have hempty : Identified auth (fun _ => none) { clock } := by
    constructor
    · intro row hrow
      simp [Table.empty] at hrow
    · intro nodeId token
      simp [authenticateNode]
  exact Trace.history_invariant (threadwise_registry hinjective) (System.threadwise_start hempty) hfresh

theorem answersFit {auth : TokenHash} {issued : Issued} {c : Registry}
    (h : System.Threadwise (Identified auth) Stands issued c) : AnswersFit c := by
  intro t ht registration nodeId hrequest hresult
  have hstands := h.of_mem ht (Thread.not_abandoned_of_result hresult) registration hrequest
  have hnode : HasNode c.shared registration.request nodeId := by
    unfold Thread.result at hresult
    generalize t.rest = rest at hstands hresult
    cases hstands with
    | begun =>
        rw [code_registerAgent] at hresult
        cases hresult
    | registered nodeId' hnode =>
        obtain rfl : nodeId' = nodeId := by simpa using hresult
        exact hnode
    | refused message => simp at hresult
    | _ => cases hresult
  refine ⟨?_, hnode⟩
  obtain ⟨row, hrow, -, hname, hhost⟩ := hnode
  rintro ⟨other, hother, ⟨hsame, hdiffers⟩ | ⟨hsame, hdiffers⟩⟩
  · rw [h.shared.distinct other hother row hrow (.inl (hsame.trans hname.symm))] at hdiffers
    exact hdiffers hhost
  · rw [h.shared.distinct other hother row hrow (.inr (hsame.trans hhost.symm))] at hdiffers
    exact hdiffers hname

theorem keepsIds_apply {auth : TokenHash} (hinjective : Function.Injective auth.hashToken)
    {issued : Issued} {c : Registry} {e : RegistryEvent} (h : Identified auth issued c.shared)
    (hok : FreshIds c e) : KeepsIds c.shared ((registry auth).apply c e).shared := by
  rcases System.apply_cases (M := registry auth) c e with ⟨request, -, -, heq⟩ |
    ⟨index, t, op, next, -, -, -, -, hperf, heq⟩ | ⟨index, t, -, -, -, heq⟩ | ⟨clock, -, -, heq⟩ |
    ⟨-, heq⟩
  · rw [heq]
    exact (sameIdentities_of_nodes rfl).keepsIds
  · rw [heq]
    refine (exec_spec hinjective h op ?_).2
    rintro request now token newId rfl
    exact hok t request now token newId hperf
  · rw [heq]
    exact (sameIdentities_of_nodes rfl).keepsIds
  · rw [heq]
    exact (sameIdentities_of_nodes rfl).keepsIds
  · rw [heq]
    exact (sameIdentities_of_nodes rfl).keepsIds

theorem refuses {auth : TokenHash} {issued : Issued} {c : Registry} {e : RegistryEvent}
    (h : Identified auth issued c.shared) (hok : FreshIds c e) : Refuses auth c e := by
  intro t request now token newId hperf hconflict
  have hshared : ((registry auth).apply c e).shared
      = ((Stmt.tryRegister request now token newId).exec auth c.shared).2 := by
    rcases System.apply_shared (M := registry auth) c e with ⟨t', op, hperf', heq⟩ | ⟨hnone, -⟩ | ⟨hnone, -⟩
    · rw [hperf] at hperf'
      obtain ⟨-, rfl⟩ := Prod.mk.inj (Option.some.inj hperf')
      exact heq
    · rw [hperf] at hnone
      cases hnone
    · rw [hperf] at hnone
      cases hnone
  rw [hshared]
  simp only [Stmt.exec]
  rcases tryRegister_spec auth request now token newId h.distinct (hok t request now token newId hperf) with
    ⟨-, message, hrefused⟩ | ⟨nodeId, db', hregistered, hcommitted⟩
  · rw [hrefused]
    exact ⟨⟨message, rfl⟩, rfl⟩
  · exact absurd hconflict hcommitted.conflictFree

theorem keepsIds_refl (db : NodesDb) : KeepsIds db db := (sameIdentities_of_nodes rfl).keepsIds

theorem KeepsIds.trans {db db' db'' : NodesDb} (h : KeepsIds db db') (h' : KeepsIds db' db'') :
    KeepsIds db db'' := by
  intro row hrow
  obtain ⟨row', hrow', hid, hname, hhost⟩ := h row hrow
  obtain ⟨row'', hrow'', hid', hname', hhost'⟩ := h' row' hrow'
  exact ⟨row'', hrow'', hid'.trans hid, hname'.trans hname, hhost'.trans hhost⟩

theorem node_identity (auth : TokenHash) (hinjective : Function.Injective auth.hashToken) (clock : Int)
    (events : List RegistryEvent)
    (hfresh : Trace.Along (registry auth).apply FreshIds (startRegistry clock) events) :
    Trace.Always (identityStep auth)
        (fun s => NamesDetermined s.1.shared ∧ OnlyIssued auth s.2 s.1.shared ∧ AnswersFit s.1)
        (startRegistry clock, fun _ => none) events ∧
      Trace.Chain (registry auth).apply (fun c c' => KeepsIds c.shared c'.shared)
        (startRegistry clock) events ∧
      Trace.Along (registry auth).apply (Refuses auth) (startRegistry clock) events := by
  have hbefore : ∀ pre post, events = pre ++ post →
      System.Threadwise (Identified auth) Stands
        (Trace.history (registry auth).apply (System.noted (issue auth)) (startRegistry clock)
          (fun _ => none) pre)
        ((registry auth).run (startRegistry clock) pre) := by
    rintro pre post rfl
    exact threadwise_run hinjective clock pre ((Trace.along_append _ _ _ _ _).mp hfresh).1
  refine ⟨fun pre post hsplit => ?_, ?_, ?_⟩
  · have hhere := hbefore pre post hsplit
    unfold identityStep
    rw [Trace.run_withHistory]
    exact ⟨hhere.shared.distinct.namesDetermined, hhere.shared.onlyIssued, answersFit hhere⟩
  · rw [Trace.chain_iff_along (fun c => keepsIds_refl c.shared) fun c c' c'' h h' => h.trans h',
      Trace.along_iff]
    intro pre e post hsplit
    exact keepsIds_apply hinjective (hbefore pre _ hsplit).shared
      ((Trace.along_iff _ _ _ _).mp hfresh pre e post hsplit)
  · rw [Trace.along_iff]
    intro pre e post hsplit
    exact refuses (hbefore pre _ hsplit).shared ((Trace.along_iff _ _ _ _).mp hfresh pre e post hsplit)

/-! A node registers. -/

theorem freshIds_of_performed {c : Registry} {e : RegistryEvent} (stmt : Stmt)
    (hperforms : (System.performed c e).map (·.2) = some stmt)
    (hfresh : ∀ request now token newId, stmt = .tryRegister request now token newId →
      c.shared.nodes.find? newId = none) : FreshIds c e := by
  intro t request now token newId hperf
  rw [hperf] at hperforms
  exact hfresh request now token newId (Option.some.inj hperforms).symm

def registrationOfNodeA : Registration :=
  { request := { name := "node-a", hostname := "host-a" }
    token := "token"
    newId := "node-1"
    retryId := "node-2" }

def registerOnce : List RegistryEvent :=
  [.spawn (.registerAgent registrationOfNodeA), .step 0, .step 0]

theorem node_identity_example :
    Trace.Always (identityStep plainTokens)
        (fun s => NamesDetermined s.1.shared ∧ OnlyIssued plainTokens s.2 s.1.shared ∧ AnswersFit s.1)
        (startRegistry 1700000000, fun _ => none) registerOnce ∧
      Trace.Chain (registry plainTokens).apply (fun c c' => KeepsIds c.shared c'.shared)
        (startRegistry 1700000000) registerOnce ∧
      Trace.Along (registry plainTokens).apply (Refuses plainTokens) (startRegistry 1700000000)
        registerOnce := by
  have hinjective : Function.Injective plainTokens.hashToken := fun _ _ hsame => hsame
  refine node_identity plainTokens hinjective 1700000000 registerOnce ⟨?_, ?_, ?_, trivial⟩
  · intro t request now token newId hperf
    cases hperf
  · refine freshIds_of_performed .nowUnixSecs rfl ?_
    intro request now token newId hstmt
    cases hstmt
  · refine freshIds_of_performed
      (.tryRegister registrationOfNodeA.request 1700000000 "token" "node-1") rfl ?_
    intro request now token newId hstmt
    rfl

end LightAI.Nodes
