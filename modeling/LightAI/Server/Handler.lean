import LightAI.Server.Statement

/-!
# Request handlers

A handler is a program over statements that may end in an error. A statement that fails for a reason
outside this model (a busy database, say) ends its request as a dropped connection does.
-/

namespace LightAI.Server

abbrev Handler (α : Type) := ExceptT DomainError (Program Stmt Stmt.Answer) α

/-- A handler that executes one statement. -/
def execute (stmt : Stmt) : Handler stmt.Answer :=
  ExceptT.mk (Program.call stmt fun answer => .ret (.ok answer))

def query {β : Type} (q : Db → β) : Handler β := execute (.select q)

def nowUnixSecs : Handler Int := query Db.clock

/-- `?` on an optional value. -/
def required {β : Type} (error : DomainError) : Option β → Handler β
  | none => throw error
  | some value => pure value

/-- `?` on a statement that may fail as a whole. -/
def checked {β : Type} : Except DomainError β → Handler β
  | .error error => throw error
  | .ok value => pure value

/-- `if condition { return Err(error) }`. -/
def rejectIf (condition : Bool) (error : DomainError) : Handler Unit :=
  if condition then throw error else pure ()

/-- `?` on an `INSERT`. -/
def inserted (accepted : Bool) : Handler Unit :=
  if accepted then pure () else throw (.internal "constraint failed")

@[simp]
theorem run_execute (stmt : Stmt) :
    (execute stmt).run = Program.call stmt fun answer => .ret (.ok answer) := rfl

section Serve

variable {α β : Type}

/-- A handler run alone: its outcome and the database it leaves. -/
def serve (h : Handler α) (db : Db) : Except DomainError α × Db := h.run.run Stmt.exec db

@[simp]
theorem serve_pure (a : α) (db : Db) : serve (pure a) db = (.ok a, db) := rfl

@[simp]
theorem serve_throw (e : DomainError) (db : Db) :
    serve (throw e : Handler α) db = (.error e, db) := rfl

@[simp]
theorem serve_execute (stmt : Stmt) (db : Db) :
    serve (execute stmt) db = (.ok (stmt.exec db).1, (stmt.exec db).2) := rfl

@[simp]
theorem serve_query (q : Db → β) (db : Db) : serve (query q) db = (.ok (q db), db) := rfl

@[simp]
theorem serve_nowUnixSecs (db : Db) : serve nowUnixSecs db = (.ok db.clock, db) := rfl

theorem serve_bind (h : Handler α) (f : α → Handler β) (db : Db) :
    serve (h >>= f) db
      = match serve h db with
        | (.ok a, db') => serve (f a) db'
        | (.error e, db') => (.error e, db') := by
  change ((h.run >>= fun r => _).run Stmt.exec db) = _
  rw [Program.run_bind]
  unfold serve
  cases hresult : (h.run.run Stmt.exec db).1 with
  | ok a =>
      have hpair : h.run.run Stmt.exec db = (.ok a, (h.run.run Stmt.exec db).2) :=
        Prod.ext hresult rfl
      rw [hpair]
      rfl
  | error e =>
      have hpair : h.run.run Stmt.exec db = (.error e, (h.run.run Stmt.exec db).2) :=
        Prod.ext hresult rfl
      rw [hpair]
      rfl

theorem serve_bind_ok {h : Handler α} {db db' : Db} {a : α} (hserve : serve h db = (.ok a, db'))
    (f : α → Handler β) : serve (h >>= f) db = serve (f a) db' := by
  rw [serve_bind, hserve]

theorem serve_bind_error {h : Handler α} {db db' : Db} {e : DomainError}
    (hserve : serve h db = (.error e, db')) (f : α → Handler β) :
    serve (h >>= f) db = (.error e, db') := by
  rw [serve_bind, hserve]

/-- A sequence that ends without an error has both its parts end without one. -/
theorem serve_bind_eq_ok {h : Handler α} {f : α → Handler β} {db db' : Db} {b : β}
    (hserve : serve (h >>= f) db = (.ok b, db')) :
    ∃ a between, serve h db = (.ok a, between) ∧ serve (f a) between = (.ok b, db') := by
  rw [serve_bind] at hserve
  cases hfirst : serve h db with
  | mk outcome between =>
      rw [hfirst] at hserve
      cases outcome with
      | ok a => exact ⟨a, between, rfl, hserve⟩
      | error e => exact nomatch congrArg Prod.fst hserve

@[simp]
theorem serve_required_none (e : DomainError) (db : Db) :
    serve (required e (none : Option α)) db = (.error e, db) := rfl

@[simp]
theorem serve_required_some (e : DomainError) (a : α) (db : Db) :
    serve (required e (some a)) db = (.ok a, db) := rfl

@[simp]
theorem serve_checked_ok (a : α) (db : Db) : serve (checked (.ok a)) db = (.ok a, db) := rfl

@[simp]
theorem serve_checked_error (e : DomainError) (db : Db) :
    serve (checked (.error e : Except DomainError α)) db = (.error e, db) := rfl

@[simp]
theorem serve_rejectIf_false (e : DomainError) (db : Db) :
    serve (rejectIf false e) db = (.ok (), db) := rfl

@[simp]
theorem serve_rejectIf_true (e : DomainError) (db : Db) :
    serve (rejectIf true e) db = (.error e, db) := rfl

end Serve

end LightAI.Server
