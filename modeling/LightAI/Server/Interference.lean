import LightAI.Server.Vocabulary

/-!
# Handlers under interference

The rules of robust programs, for the pieces that handlers are made of. A read has no precondition.
-/

namespace LightAI.Server

open Interleaving

/-- Whatever the others do within `rely`, the handler started after `done` executes only statements that
`pre` allows and ends only as `post` allows. -/
abbrev Safe {α : Type} (rely : Db → Db → Prop) (pre : List Stmt → Db → Stmt → Prop)
    (post : List Stmt → Db → Except DomainError α → Prop) (done : List Stmt) (db : Db)
    (h : Handler α) : Prop :=
  h.run.Robust Stmt.exec rely pre post done db

variable {rely : Db → Db → Prop} {pre : List Stmt → Db → Stmt → Prop} {α β : Type}
  {post : List Stmt → Db → Except DomainError α → Prop} {done : List Stmt} {db : Db}

theorem safe_pure {a : α} (h : post done db (.ok a)) : Safe rely pre post done db (pure a) := h

theorem safe_throw {e : DomainError} (h : post done db (.error e)) :
    Safe rely pre post done db (throw e) := h

theorem safe_bind (post : List Stmt → Db → Except DomainError α → Prop)
    {post' : List Stmt → Db → Except DomainError β → Prop} {h : Handler α} {f : α → Handler β}
    (hsafe : Safe rely pre post done db h)
    (herror : ∀ done db e, post done db (.error e) → post' done db (.error e))
    (hok : ∀ done db a, post done db (.ok a) → Safe rely pre post' done db (f a)) :
    Safe rely pre post' done db (h >>= f) :=
  Program.Robust.except_bind hsafe herror hok

/-- A condition on the value that a handler returns. An error may end it anywhere. -/
def IfOk (post : List Stmt → Db → α → Prop) (done : List Stmt) (db : Db) :
    Except DomainError α → Prop
  | .ok a => post done db a
  | .error _ => True

theorem safe_then (post : List Stmt → Db → α → Prop) {post' : List Stmt → Db → β → Prop}
    {h : Handler α} {f : α → Handler β} (hsafe : Safe rely pre (IfOk post) done db h)
    (hok : ∀ done db a, post done db a → Safe rely pre (IfOk post') done db (f a)) :
    Safe rely pre (IfOk post') done db (h >>= f) :=
  safe_bind (IfOk post) hsafe (fun _ _ _ _ => trivial) hok

theorem safe_execute {stmt : Stmt}
    {post : List Stmt → Db → Except DomainError stmt.Answer → Prop}
    (hpre : ∀ db', rely db db' → pre done db' stmt)
    (hpost : ∀ db', rely db db' →
      post (stmt :: done) (stmt.exec db').2 (.ok (stmt.exec db').1)) :
    Safe rely pre post done db (execute stmt) :=
  fun db' hdb' => ⟨hpre db' hdb', hpost db' hdb'⟩

theorem safe_query (hread : ∀ done db (q : Db → α), pre done db (.select q)) {q : Db → α}
    (hpost : ∀ db', rely db db' → post (.select q :: done) db' (.ok (q db'))) :
    Safe rely pre post done db (query q) :=
  safe_execute (fun db' _ => hread done db' q) hpost

theorem safe_required {e : DomainError} {value : Option α} (hnone : post done db (.error e))
    (hsome : ∀ a, value = some a → post done db (.ok a)) :
    Safe rely pre post done db (required e value) := by
  cases value with
  | none => exact hnone
  | some a => exact hsome a rfl

/-- A handler all of whose statements keep an invariant. -/
theorem safe_of_performs (Inv : List Stmt → Db → Prop) {ok : Stmt → Prop} {h : Handler α}
    (hperf : h.run.Performs ok) (hrely : ∀ done db db', rely db db' → Inv done db → Inv done db')
    (hop : ∀ done db stmt, Inv done db → ok stmt →
      pre done db stmt ∧ Inv (stmt :: done) (stmt.exec db).2)
    (hinv : Inv done db) : Safe rely pre (fun done db _ => Inv done db) done db h :=
  Program.Performs.robust hrely hop hperf hinv

/-- A handler of whose writes an invariant is independent. -/
theorem Uses.safe (Inv : List Stmt → Db → Prop) {writes : List Write} {h : Handler α}
    (huses : Uses writes h) (hrely : ∀ done db db', rely db db' → Inv done db → Inv done db')
    (hop : ∀ done db stmt, Inv done db → stmt.Among writes →
      pre done db stmt ∧ Inv (stmt :: done) (stmt.exec db).2)
    (hinv : Inv done db) : Safe rely pre (fun done db _ => Inv done db) done db h :=
  safe_of_performs Inv huses hrely hop hinv

theorem Safe.mono {post' : List Stmt → Db → Except DomainError α → Prop} {h : Handler α}
    (hsafe : Safe rely pre post done db h)
    (himp : ∀ done db result, post done db result → post' done db result) :
    Safe rely pre post' done db h :=
  Program.Robust.mono himp hsafe

/-- Every request but a poll is one whose answer is not looked at, and only polls claim. -/
theorem handler_eq_answered (deps : External) (request : Request) :
    (∃ nodeId version waits, request = .pollAgentTask nodeId version waits) ∨
    ∃ (α : Type) (h : Handler α), request.handler deps = answered h ∧ Uses request.writes h ∧
      .claimAgentTask ∉ request.writes := by
  have huses := uses_handler deps request
  cases request
  case pollAgentTask nodeId version waits => exact .inl ⟨nodeId, version, waits, rfl⟩
  all_goals
    refine .inr ⟨_, _, rfl, Program.Performs.of_bind huses, ?_⟩
    simp only [Request.writes]
    decide

end LightAI.Server
