import Mathlib

/-!
# Programs over atomic operations

A program is a tree: it returns, or it performs one operation and goes on with the answer. What an
operation does to the shared state is given apart from the program, by `exec`, so that the same
program can be run to its end in one go or one operation at a time between those of others.
-/

universe u

/-- A program whose atomic operations are `Op`, the answer to `op` being an `Answer op`. -/
inductive Program (Op : Type u) (Answer : Op → Type) (α : Type) where
  | ret (value : α)
  | call (op : Op) (next : Answer op → Program Op Answer α)

namespace Program

variable {Op : Type u} {Answer : Op → Type} {S α β : Type}

def bind : Program Op Answer α → (α → Program Op Answer β) → Program Op Answer β
  | ret value, f => f value
  | call op next, f => call op fun answer => (next answer).bind f

instance : Monad (Program Op Answer) where
  pure := ret
  bind := bind

/-- The program that performs one operation and returns its answer. -/
def perform (op : Op) : Program Op Answer (Answer op) := call op ret

@[simp]
theorem pure_eq (value : α) : (pure value : Program Op Answer α) = ret value := rfl

@[simp]
theorem ret_bind (value : α) (f : α → Program Op Answer β) : (ret value >>= f) = f value := rfl

@[simp]
theorem call_bind (op : Op) (next : Answer op → Program Op Answer α)
    (f : α → Program Op Answer β) :
    (call op next >>= f) = call op fun answer => next answer >>= f := rfl

@[simp]
theorem perform_bind (op : Op) (f : Answer op → Program Op Answer β) :
    (perform op >>= f) = call op f := rfl

theorem bind_ret (p : Program Op Answer α) : p.bind ret = p := by
  induction p with
  | ret value => rfl
  | call op next ih => exact congrArg (call op) (funext ih)

theorem bind_assoc {γ : Type} (p : Program Op Answer α) (f : α → Program Op Answer β)
    (g : β → Program Op Answer γ) : (p.bind f).bind g = p.bind fun value => (f value).bind g := by
  induction p with
  | ret value => rfl
  | call op next ih => exact congrArg (call op) (funext ih)

instance : LawfulMonad (Program Op Answer) :=
  LawfulMonad.mk' (Program Op Answer) bind_ret (fun _ _ => rfl) bind_assoc

section Run

variable (exec : (op : Op) → S → Answer op × S)

/-- The program run to its end with nothing in between. -/
def run : Program Op Answer α → S → α × S
  | ret value, s => (value, s)
  | call op next, s => run (next (exec op s).1) (exec op s).2

@[simp]
theorem run_ret (value : α) (s : S) : (ret value : Program Op Answer α).run exec s = (value, s) :=
  rfl

@[simp]
theorem run_call (op : Op) (next : Answer op → Program Op Answer α) (s : S) :
    (call op next).run exec s = (next (exec op s).1).run exec (exec op s).2 := rfl

theorem run_bind (p : Program Op Answer α) (f : α → Program Op Answer β) (s : S) :
    (p >>= f).run exec s = (f (p.run exec s).1).run exec (p.run exec s).2 := by
  induction p generalizing s with
  | ret value => rfl
  | call op next ih => exact ih _ _

end Run

/-! ### What the operations of a run emit -/

section Emits

variable {γ : Type} (exec : (op : Op) → S → Answer op × S) (out : Op → S → List γ)

/-- What the operations of a run emit, each in the state in which it is performed. -/
def emits : Program Op Answer α → S → List γ
  | ret _, _ => []
  | call op next, s => out op s ++ emits (next (exec op s).1) (exec op s).2

@[simp]
theorem emits_ret (value : α) (s : S) :
    (ret value : Program Op Answer α).emits exec out s = [] := rfl

@[simp]
theorem emits_call (op : Op) (next : Answer op → Program Op Answer α) (s : S) :
    (call op next).emits exec out s
      = out op s ++ (next (exec op s).1).emits exec out (exec op s).2 := rfl

theorem emits_bind (p : Program Op Answer α) (f : α → Program Op Answer β) (s : S) :
    (p >>= f).emits exec out s
      = p.emits exec out s ++ (f (p.run exec s).1).emits exec out (p.run exec s).2 := by
  induction p generalizing s with
  | ret value => rfl
  | call op next ih =>
      calc
        (call op next >>= f).emits exec out s
            = out op s ++ (next (exec op s).1 >>= f).emits exec out (exec op s).2 := rfl
        _ = (call op next).emits exec out s
              ++ (f ((call op next).run exec s).1).emits exec out ((call op next).run exec s).2 := by
          rw [ih, emits_call, run_call, List.append_assoc]

end Emits

/-! ### The operations that a program may perform -/

section Performs

/-- Whatever the answers are, the program performs only operations that `ok` allows. -/
def Performs (ok : Op → Prop) : Program Op Answer α → Prop
  | ret _ => True
  | call op next => ok op ∧ ∀ answer, Performs ok (next answer)

theorem Performs.mono {ok ok' : Op → Prop} (himp : ∀ op, ok op → ok' op) {p : Program Op Answer α}
    (h : p.Performs ok) : p.Performs ok' := by
  induction p with
  | ret value => trivial
  | call op next ih => exact ⟨himp op h.1, fun answer => ih answer (h.2 answer)⟩

theorem Performs.and {ok ok' : Op → Prop} {p : Program Op Answer α} (h : p.Performs ok)
    (h' : p.Performs ok') : p.Performs fun op => ok op ∧ ok' op := by
  induction p with
  | ret value => trivial
  | call op next ih => exact ⟨⟨h.1, h'.1⟩, fun answer => ih answer (h.2 answer) (h'.2 answer)⟩

theorem performs_true (p : Program Op Answer α) : p.Performs fun _ => True := by
  induction p with
  | ret value => trivial
  | call op next ih => exact ⟨trivial, ih⟩

theorem Performs.bind {ok : Op → Prop} {p : Program Op Answer α} {f : α → Program Op Answer β}
    (hp : p.Performs ok) (hf : ∀ value, (f value).Performs ok) : (p >>= f).Performs ok := by
  induction p with
  | ret value => exact hf value
  | call op next ih => exact ⟨hp.1, fun answer => ih answer (hp.2 answer)⟩

theorem Performs.of_bind {ok : Op → Prop} {p : Program Op Answer α} {f : α → Program Op Answer β}
    (h : (p >>= f).Performs ok) : p.Performs ok := by
  induction p with
  | ret value => trivial
  | call op next ih => exact ⟨h.1, fun answer => ih answer (h.2 answer)⟩

/-- A relation that every permitted operation respects is respected by the whole program. -/
theorem Performs.run_rel {exec : (op : Op) → S → Answer op × S} {ok : Op → Prop}
    {R : S → S → Prop} (hrefl : ∀ s, R s s) (htrans : ∀ s t u, R s t → R t u → R s u)
    (hexec : ∀ op s, ok op → R s (exec op s).2) {p : Program Op Answer α} (h : p.Performs ok) (s : S) :
    R s (p.run exec s).2 := by
  induction p generalizing s with
  | ret value => exact hrefl s
  | call op next ih => exact htrans _ _ _ (hexec op s h.1) (ih _ (h.2 _) _)

/-- A program whose operations emit nothing emits nothing. -/
theorem Performs.emits_eq_nil {γ : Type} {exec : (op : Op) → S → Answer op × S}
    {out : Op → S → List γ} {ok : Op → Prop} (hout : ∀ op s, ok op → out op s = [])
    {p : Program Op Answer α} (h : p.Performs ok) (s : S) : p.emits exec out s = [] := by
  induction p generalizing s with
  | ret value => rfl
  | call op next ih => rw [emits_call, hout op s h.1, ih _ (h.2 _), List.append_nil]

end Performs

/-! ### Programs under interference

`rely` is what the others may do to the shared state between two operations. `Robust` says of a
program started after the operations `done` (the latest first) that, whatever the others do, it
performs an operation only where `pre` allows it and ends only in a value that `post` allows. -/

section Robust

variable (exec : (op : Op) → S → Answer op × S) (rely : S → S → Prop)
  (pre : List Op → S → Op → Prop)

def Robust (post : List Op → S → α → Prop) : List Op → S → Program Op Answer α → Prop
  | done, s, ret value => post done s value
  | done, s, call op next =>
      ∀ s', rely s s' → pre done s' op ∧
        Robust post (op :: done) (exec op s').2 (next (exec op s').1)

variable {exec rely pre}

theorem robust_ret {post : List Op → S → α → Prop} {done : List Op} {s : S} {value : α}
    (h : post done s value) : Robust exec rely pre post done s (ret value) := h

/-- Others' steps cannot break a robust program, as long as its value stays allowed. -/
theorem Robust.weaken (htrans : ∀ s t u, rely s t → rely t u → rely s u)
    {post : List Op → S → α → Prop}
    (hpost : ∀ done s s' value, rely s s' → post done s value → post done s' value)
    {done : List Op} {s s' : S} {p : Program Op Answer α} (hrely : rely s s')
    (h : Robust exec rely pre post done s p) : Robust exec rely pre post done s' p := by
  cases p with
  | ret value => exact hpost done s s' value hrely h
  | call op next => exact fun t ht => h t (htrans s s' t hrely ht)

/-- Where nothing is relied on but an invariant, it does not matter in which state the program stands. -/
theorem Robust.anywhere {Inv : S → Prop} {ends : List Op → α → Prop} {done : List Op} {s : S}
    {p : Program Op Answer α}
    (h : Robust exec (fun _ s' => Inv s') pre (fun done _ value => ends done value) done s p) (s' : S) :
    Robust exec (fun _ s' => Inv s') pre (fun done _ value => ends done value) done s' p := by
  cases p with
  | ret value => exact h
  | call op next => exact h

theorem Robust.mono {post post' : List Op → S → α → Prop}
    (himp : ∀ done s value, post done s value → post' done s value) {p : Program Op Answer α} :
    ∀ {done : List Op} {s : S}, Robust exec rely pre post done s p →
      Robust exec rely pre post' done s p := by
  induction p with
  | ret value => exact fun h => himp _ _ _ h
  | call op next ih => exact fun h s' hs' => ⟨(h s' hs').1, ih _ (h s' hs').2⟩

theorem Robust.bind {post : List Op → S → α → Prop} {post' : List Op → S → β → Prop}
    {f : α → Program Op Answer β} {p : Program Op Answer α} :
    ∀ {done : List Op} {s : S}, Robust exec rely pre post done s p →
      (∀ done s value, post done s value → Robust exec rely pre post' done s (f value)) →
      Robust exec rely pre post' done s (p >>= f) := by
  induction p with
  | ret value => exact fun h hf => hf _ _ _ h
  | call op next ih => exact fun h hf s' hs' => ⟨(h s' hs').1, ih _ (h s' hs').2 hf⟩

theorem robust_call {post : List Op → S → α → Prop} {done : List Op} {s : S} {op : Op}
    {next : Answer op → Program Op Answer α} (hpre : ∀ s', rely s s' → pre done s' op)
    (hnext : ∀ s', rely s s' →
      Robust exec rely pre post (op :: done) (exec op s').2 (next (exec op s').1)) :
    Robust exec rely pre post done s (call op next) :=
  fun s' hs' => ⟨hpre s' hs', hnext s' hs'⟩

/-- A program all of whose operations keep an invariant, and find their precondition in it, keeps the
invariant. -/
theorem Performs.robust {ok : Op → Prop} {Inv : List Op → S → Prop}
    (hrely : ∀ done s s', rely s s' → Inv done s → Inv done s')
    (hop : ∀ done s op, Inv done s → ok op → pre done s op ∧ Inv (op :: done) (exec op s).2)
    {p : Program Op Answer α} : ∀ {done : List Op} {s : S}, p.Performs ok → Inv done s →
      Robust exec rely pre (fun done s _ => Inv done s) done s p := by
  induction p with
  | ret value => exact fun _ hinv => hinv
  | call op next ih =>
      intro done s hp hinv s' hs'
      have hhere := hop done s' op (hrely done s s' hs' hinv) hp.1
      exact ⟨hhere.1, ih _ (hp.2 _) hhere.2⟩

/-- What the others cannot break, a robust program whose operations stay within `rely` cannot break
either. -/
theorem Robust.frame {Q : S → Prop} (hstable : ∀ s s', rely s s' → Q s → Q s')
    (hguarantee : ∀ done s op, pre done s op → rely s (exec op s).2)
    {post : List Op → S → α → Prop} {p : Program Op Answer α} :
    ∀ {done : List Op} {s : S}, Robust exec rely pre post done s p → Q s →
      Robust exec rely pre (fun done s value => post done s value ∧ Q s) done s p := by
  induction p with
  | ret value => exact fun h hq => ⟨h, hq⟩
  | call op next ih =>
      intro done s h hq s' hs'
      have hq' := hstable s s' hs' hq
      have hpre := (h s' hs').1
      exact ⟨hpre, ih _ (h s' hs').2 (hstable _ _ (hguarantee done s' op hpre) hq')⟩

/-- For a program that may fail, an error ends it and a value is what the rest starts from. -/
theorem Robust.except_bind {ε : Type} {post : List Op → S → Except ε α → Prop}
    {post' : List Op → S → Except ε β → Prop} {p : ExceptT ε (Program Op Answer) α}
    {f : α → ExceptT ε (Program Op Answer) β} {done : List Op} {s : S}
    (h : Robust exec rely pre post done s p.run)
    (herror : ∀ done s e, post done s (.error e) → post' done s (.error e))
    (hok : ∀ done s a, post done s (.ok a) → Robust exec rely pre post' done s (f a).run) :
    Robust exec rely pre post' done s (p >>= f).run := by
  refine Robust.bind h fun done s result hresult => ?_
  cases result with
  | error e => exact robust_ret (herror done s e hresult)
  | ok a => exact hok done s a hresult

end Robust

end Program
