import LightAI.Base.Program

/-!
# Programs that may fail

A program over atomic operations that ends in a value or in an error. Run alone it is a function on the
shared state; what it may do is a matter of the operations that it performs.
-/

universe u

/-- A program over the operations `Op` that may end in an error of type `ε`. -/
abbrev Fallible (ε : Type) (Op : Type u) (Answer : Op → Type) (α : Type) :=
  ExceptT ε (Program Op Answer) α

namespace Fallible

variable {ε : Type} {Op : Type u} {Answer : Op → Type} {S α β : Type}

def perform (op : Op) : Fallible ε Op Answer (Answer op) :=
  ExceptT.mk (Program.call op fun answer => .ret (.ok answer))

/-- A value that has to be there. -/
def required (error : ε) : Option α → Fallible ε Op Answer α
  | none => throw error
  | some value => pure value

/-- A check made without looking at the state. -/
def checked : Except ε α → Fallible ε Op Answer α
  | .error error => throw error
  | .ok value => pure value

def rejectIf (condition : Bool) (error : ε) : Fallible ε Op Answer Unit :=
  if condition then throw error else pure ()

section Serve

variable (exec : (op : Op) → S → Answer op × S)

/-- The program run alone. -/
def serve (h : Fallible ε Op Answer α) (s : S) : Except ε α × S := h.run.run exec s

variable {exec}

theorem serve_pure (a : α) (s : S) :
    serve exec (pure a : Fallible ε Op Answer α) s = (.ok a, s) := rfl

theorem serve_throw (e : ε) (s : S) :
    serve exec (throw e : Fallible ε Op Answer α) s = (.error e, s) := rfl

theorem serve_perform (op : Op) (s : S) :
    serve exec (perform op : Fallible ε Op Answer (Answer op)) s
      = (.ok (exec op s).1, (exec op s).2) := rfl

theorem serve_required_some (e : ε) (a : α) (s : S) :
    serve exec (required e (some a) : Fallible ε Op Answer α) s = (.ok a, s) := rfl

theorem serve_bind (h : Fallible ε Op Answer α) (f : α → Fallible ε Op Answer β) (s : S) :
    serve exec (h >>= f) s
      = match serve exec h s with
        | (.ok a, s') => serve exec (f a) s'
        | (.error e, s') => (.error e, s') := by
  change ((h.run >>= fun r => _).run exec s) = _
  rw [Program.run_bind]
  unfold serve
  cases hresult : (h.run.run exec s).1 with
  | ok a =>
      have hpair : h.run.run exec s = (.ok a, (h.run.run exec s).2) := Prod.ext hresult rfl
      rw [hpair]
      rfl
  | error e =>
      have hpair : h.run.run exec s = (.error e, (h.run.run exec s).2) := Prod.ext hresult rfl
      rw [hpair]
      rfl

theorem serve_bind_ok {h : Fallible ε Op Answer α} {s s' : S} {a : α}
    (hserve : serve exec h s = (.ok a, s')) (f : α → Fallible ε Op Answer β) :
    serve exec (h >>= f) s = serve exec (f a) s' := by
  rw [serve_bind, hserve]

theorem serve_bind_error {h : Fallible ε Op Answer α} {s s' : S} {e : ε}
    (hserve : serve exec h s = (.error e, s')) (f : α → Fallible ε Op Answer β) :
    serve exec (h >>= f) s = (.error e, s') := by
  rw [serve_bind, hserve]

/-- An operation comes first, and the rest goes on with its answer. -/
theorem serve_perform_bind (op : Op) (f : Answer op → Fallible ε Op Answer β) (s : S) :
    serve exec (perform op >>= f) s = serve exec (f (exec op s).1) (exec op s).2 :=
  serve_bind_ok (serve_perform op s) f

/-- A sequence that ends without an error has both its parts end without one. -/
theorem serve_bind_eq_ok {h : Fallible ε Op Answer α} {f : α → Fallible ε Op Answer β} {s s' : S}
    {b : β} (hserve : serve exec (h >>= f) s = (.ok b, s')) :
    ∃ a between, serve exec h s = (.ok a, between) ∧ serve exec (f a) between = (.ok b, s') := by
  rw [serve_bind] at hserve
  cases hfirst : serve exec h s with
  | mk outcome between =>
      rw [hfirst] at hserve
      cases outcome with
      | ok a => exact ⟨a, between, rfl, hserve⟩
      | error e => cases congrArg Prod.fst hserve

theorem serve_checked_eq_ok {value : Except ε α} {a : α} {s s' : S}
    (hserve : serve exec (checked value : Fallible ε Op Answer α) s = (.ok a, s')) :
    value = .ok a ∧ s' = s := by
  cases value with
  | error e => cases congrArg Prod.fst hserve
  | ok a' => exact ⟨congrArg Except.ok (Except.ok.inj (congrArg Prod.fst hserve)),
      (congrArg Prod.snd hserve).symm⟩

theorem serve_required_eq_ok {e : ε} {value : Option α} {a : α} {s s' : S}
    (hserve : serve exec (required e value : Fallible ε Op Answer α) s = (.ok a, s')) :
    value = some a ∧ s' = s := by
  cases value with
  | none => cases congrArg Prod.fst hserve
  | some a' => exact ⟨congrArg some (Except.ok.inj (congrArg Prod.fst hserve)),
      (congrArg Prod.snd hserve).symm⟩

theorem serve_rejectIf_eq_ok {condition : Bool} {e : ε} {u : Unit} {s s' : S}
    (hserve : serve exec (rejectIf condition e : Fallible ε Op Answer Unit) s = (.ok u, s')) :
    condition = false ∧ s' = s := by
  cases condition with
  | false => exact ⟨rfl, (congrArg Prod.snd hserve).symm⟩
  | true => cases congrArg Prod.fst hserve

end Serve

/-! ### Where a program ends -/

section Ends

variable (exec : (op : Op) → S → Answer op × S)

/-- From `s` the program ends in a value and a state as `Q` says, or in an error and a state as `E`
says. -/
def Ends (h : Fallible ε Op Answer α) (s : S) (Q : α → S → Prop) (E : ε → S → Prop) : Prop :=
  (∀ a s', serve exec h s = (.ok a, s') → Q a s')
    ∧ ∀ e s', serve exec h s = (.error e, s') → E e s'

variable {exec} {h : Fallible ε Op Answer α} {s : S} {Q : α → S → Prop} {E : ε → S → Prop}

theorem Ends.of_serve_ok {a : α} {s' : S} (hserve : serve exec h s = (.ok a, s')) (hQ : Q a s') :
    Ends exec h s Q E := by
  constructor
  · intro a' s'' hserve'
    rw [hserve] at hserve'
    cases hserve'
    exact hQ
  · intro e s'' hserve'
    rw [hserve] at hserve'
    cases hserve'

theorem Ends.of_serve_error {e : ε} {s' : S} (hserve : serve exec h s = (.error e, s'))
    (hE : E e s') : Ends exec h s Q E := by
  constructor
  · intro a s'' hserve'
    rw [hserve] at hserve'
    cases hserve'
  · intro e' s'' hserve'
    rw [hserve] at hserve'
    cases hserve'
    exact hE

theorem ends_pure {a : α} (hQ : Q a s) : Ends exec (pure a) s Q E := .of_serve_ok (serve_pure a s) hQ

theorem ends_throw {e : ε} (hE : E e s) : Ends exec (throw e) s Q E :=
  .of_serve_error (serve_throw e s) hE

theorem ends_perform {op : Op} {Q : Answer op → S → Prop}
    (hQ : Q (exec op s).1 (exec op s).2) : Ends exec (perform op) s Q E :=
  .of_serve_ok (serve_perform op s) hQ

theorem ends_required {e : ε} {value : Option α} (hsome : ∀ a, value = some a → Q a s)
    (hnone : value = none → E e s) : Ends exec (required e value) s Q E := by
  cases value with
  | none => exact ends_throw (hnone rfl)
  | some a => exact ends_pure (hsome a rfl)

theorem ends_checked {value : Except ε α} (hok : ∀ a, value = .ok a → Q a s)
    (herror : ∀ e, value = .error e → E e s) : Ends exec (checked value) s Q E := by
  cases value with
  | error e => exact ends_throw (herror e rfl)
  | ok a => exact ends_pure (hok a rfl)

theorem ends_rejectIf {condition : Bool} {e : ε} {Q : Unit → S → Prop}
    (hfalse : condition = false → Q () s) (htrue : condition = true → E e s) :
    Ends exec (rejectIf condition e) s Q E := by
  cases condition with
  | false => exact ends_pure (hfalse rfl)
  | true => exact ends_throw (htrue rfl)

theorem Ends.bind {h : Fallible ε Op Answer β} {f : β → Fallible ε Op Answer α}
    (hends : Ends exec h s (fun b s' => Ends exec (f b) s' Q E) E) : Ends exec (h >>= f) s Q E := by
  cases hserve : serve exec h s with
  | mk outcome s' =>
      cases outcome with
      | ok b =>
          have hrest := hends.1 b s' hserve
          constructor
          · intro a s'' hboth
            rw [serve_bind_ok hserve] at hboth
            exact hrest.1 a s'' hboth
          · intro e s'' hboth
            rw [serve_bind_ok hserve] at hboth
            exact hrest.2 e s'' hboth
      | error e => exact .of_serve_error (serve_bind_error hserve f) (hends.2 e s' hserve)

theorem Ends.mono {Q' : α → S → Prop} {E' : ε → S → Prop} (hends : Ends exec h s Q E)
    (hQ : ∀ a s', Q a s' → Q' a s') (hE : ∀ e s', E e s' → E' e s') : Ends exec h s Q' E' :=
  ⟨fun a s' hserve => hQ a s' (hends.1 a s' hserve),
    fun e s' hserve => hE e s' (hends.2 e s' hserve)⟩

/-- What holds of the state however the program ends. -/
theorem Ends.state {P : S → Prop} (hends : Ends exec h s (fun _ s' => P s') fun _ s' => P s') :
    P (serve exec h s).2 := by
  cases hserve : serve exec h s with
  | mk outcome s' =>
      cases outcome with
      | ok a => exact hends.1 a s' hserve
      | error e => exact hends.2 e s' hserve

/-- A program that never ends in an error ends in a value. -/
theorem Ends.result (hends : Ends exec h s Q fun _ _ => False) :
    ∃ a, (serve exec h s).1 = .ok a ∧ Q a (serve exec h s).2 := by
  cases hserve : serve exec h s with
  | mk outcome s' =>
      cases outcome with
      | ok a => exact ⟨a, rfl, hends.1 a s' hserve⟩
      | error e => exact (hends.2 e s' hserve).elim

end Ends

/-! ### The operations that a program may perform -/

section Only

/-- Whatever the answers are, the program performs only operations that `ok` allows. -/
def Only (ok : Op → Prop) (h : Fallible ε Op Answer α) : Prop := h.run.Performs ok

variable {ok : Op → Prop}

theorem only_pure (a : α) : Only ok (pure a : Fallible ε Op Answer α) := trivial

theorem only_throw (e : ε) : Only ok (throw e : Fallible ε Op Answer α) := trivial

theorem only_perform {op : Op} (hop : ok op) :
    Only ok (perform op : Fallible ε Op Answer (Answer op)) := ⟨hop, fun _ => trivial⟩

theorem only_bind {h : Fallible ε Op Answer α} {f : α → Fallible ε Op Answer β} (hh : Only ok h)
    (hf : ∀ a, Only ok (f a)) : Only ok (h >>= f) := by
  refine Program.Performs.bind hh fun result => ?_
  cases result with
  | ok a => exact hf a
  | error e => trivial

theorem only_required (e : ε) (value : Option α) :
    Only ok (required e value : Fallible ε Op Answer α) := by
  cases value <;> trivial

theorem only_checked (value : Except ε α) :
    Only ok (checked value : Fallible ε Op Answer α) := by
  cases value <;> trivial

theorem only_rejectIf (condition : Bool) (e : ε) :
    Only ok (rejectIf condition e : Fallible ε Op Answer Unit) := by
  cases condition <;> trivial

theorem only_true (h : Fallible ε Op Answer α) : Only (fun _ => True) h := Program.performs_true h.run

/-- A relation that the permitted operations respect is respected by the whole program. -/
theorem Only.respects {exec : (op : Op) → S → Answer op × S} {R : S → S → Prop}
    {h : Fallible ε Op Answer α} (honly : Only ok h) (hrefl : ∀ s, R s s)
    (htrans : ∀ s t u, R s t → R t u → R s u) (hexec : ∀ op s, ok op → R s (exec op s).2) (s : S) :
    R s (serve exec h s).2 :=
  Program.Performs.run_rel hrefl htrans hexec honly s

end Only

end Fallible
