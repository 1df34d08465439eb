import LightAI.Base.Interleaving

/-!
# Programs that begin with a read

A program whose first operation reads a value of the shared state goes on with that value, however old it
has become by then. What its later operations may be is a matter of the value and of the request. The
values that the threads have read are kept beside the state.
-/

namespace Interleaving

universe u

variable {Req Env : Type} {Op : Type u} {Answer : Op → Type} {S α ρ : Type}

/-- What a thread has read with its first operation. -/
abbrev Seen (ρ : Type) := Nat → Option ρ

namespace System

/-- The values read so far, after an event. -/
def noteRead (read : Req → S → ρ) (c : Config Req Op Answer S α) (e : Event Req Env) (seen : Seen ρ) :
    Seen ρ :=
  match e with
  | .step index =>
      match c.threads[index]? with
      | none => seen
      | some t =>
          if t.dropped = false ∧ t.done = [] then
            Function.update seen index (some (read t.request c.shared))
          else seen
  | _ => seen

variable (M : System Req Env Op Answer S α) (read : Req → S → ρ) (allowed : Req → ρ → Op → Prop)

/-- After its first operation a request performs only what the value allows that it has read. -/
def GoesByFirstRead : Prop :=
  ∀ request op next, M.handle request = .call op next → ∀ s,
    (next (M.exec op s).1).Performs (allowed request (read request s))

/-- A thread has not begun, or what is left of it goes by the value that it has read. -/
def Informed (seen : Seen ρ) (c : Config Req Op Answer S α) : Prop :=
  ∀ (index : Nat) t, c.threads[index]? = some t →
    (t.done = [] ∧ t.rest = M.handle t.request) ∨
      (t.done ≠ [] ∧ ∃ value, seen index = some value ∧ t.rest.Performs (allowed t.request value))

variable {M read allowed}

theorem informed_start (s : S) (seen : Seen ρ) : M.Informed allowed seen ⟨s, []⟩ := by
  intro index t hget
  simp at hget

/-- The own step of a thread, with the value that is noted at the first one. -/
theorem informed_own (hgoes : M.GoesByFirstRead read allowed) {c : Config Req Op Answer S α}
    {seen : Seen ρ} {index : Nat} {t : Thread Req Op Answer α} {op : Op}
    {next : Answer op → Program Op Answer α} (hinformed : M.Informed allowed seen c)
    (hget : c.threads[index]? = some t) (hlive : t.dropped = false) (hrest : t.rest = .call op next) :
    ∃ value, noteRead read c (.step index : Event Req Env) seen index = some value ∧
      (next (M.exec op c.shared).1).Performs (allowed t.request value) := by
  rcases hinformed index t hget with ⟨hdone, hhandle⟩ | ⟨hdone, value, hvalue, hperforms⟩
  · refine ⟨read t.request c.shared, ?_, hgoes t.request op next (hhandle ▸ hrest) c.shared⟩
    simp [noteRead, hget, hlive, hdone]
  · refine ⟨value, ?_, ?_⟩
    · simpa [noteRead, hget, hlive, hdone] using hvalue
    · rw [hrest] at hperforms
      exact hperforms.2 _

theorem noteRead_of_ne {c : Config Req Op Answer S α} {e : Event Req Env} {seen : Seen ρ}
    {other : Nat} (hne : e ≠ .step other) : noteRead read c e seen other = seen other := by
  cases e with
  | step index =>
      have hother : other ≠ index := by
        rintro rfl
        exact hne rfl
      cases hget : c.threads[index]? with
      | none => simp [noteRead, hget]
      | some t =>
          by_cases hfirst : t.dropped = false ∧ t.done = []
          · simp [noteRead, hget, hfirst, hother]
          · simp only [noteRead, hget, if_neg hfirst]
  | _ => rfl

/-- A value stays noted until its thread begins. -/
theorem noteRead_of_begun {c : Config Req Op Answer S α} {e : Event Req Env} {seen : Seen ρ} {index : Nat}
    {t : Thread Req Op Answer α} (hget : c.threads[index]? = some t) (hdone : t.done ≠ []) :
    noteRead read c e seen index = seen index := by
  by_cases hstep : e = .step index
  · rw [hstep]
    simp [noteRead, hget, hdone]
  · exact noteRead_of_ne hstep

theorem informed_apply (hgoes : M.GoesByFirstRead read allowed) (c : Config Req Op Answer S α)
    (seen : Seen ρ) (e : Event Req Env) (hinformed : M.Informed allowed seen c) :
    M.Informed allowed (noteRead read c e seen) (M.apply c e) := by
  -- A thread that the event leaves alone stands where it stood.
  have hkept : ∀ (index : Nat) t, c.threads[index]? = some t →
      (t.done = [] ∧ t.rest = M.handle t.request) ∨
        (t.done ≠ [] ∧ ∃ value, noteRead read c e seen index = some value ∧
          t.rest.Performs (allowed t.request value)) := by
    intro index t hget
    rcases hinformed index t hget with hfresh | ⟨hdone, value, hvalue, hperforms⟩
    · exact Or.inl hfresh
    · exact Or.inr ⟨hdone, value, (noteRead_of_begun hget hdone).trans hvalue, hperforms⟩
  rcases apply_cases (M := M) c e with ⟨request, -, -, heq⟩ |
    ⟨index, t, op, next, rfl, hget, hlive, hrest, -, heq⟩ | ⟨index, t, -, hget, -, heq⟩ |
    ⟨action, -, -, heq⟩ | ⟨-, heq⟩
  · rw [heq]
    intro index t ht
    dsimp only at ht
    by_cases hlt : index < c.threads.length
    · rw [List.getElem?_append_left hlt] at ht
      exact hkept index t ht
    · rw [List.getElem?_append_right (by omega)] at ht
      have hnew : t = { request, rest := M.handle request } :=
        List.mem_singleton.mp (List.mem_of_getElem? ht)
      rw [hnew]
      exact Or.inl ⟨rfl, rfl⟩
  · rw [heq]
    intro other t' ht'
    dsimp only at ht'
    by_cases hsame : other = index
    · subst hsame
      have hlt : other < c.threads.length := (List.getElem?_eq_some_iff.mp hget).1
      rw [List.getElem?_set_self hlt] at ht'
      rw [← Option.some.inj ht']
      have hown := informed_own hgoes hinformed hget hlive hrest
      exact Or.inr ⟨List.cons_ne_nil op t.done, hown⟩
    · rw [List.getElem?_set_ne (Ne.symm hsame)] at ht'
      exact hkept other t' ht'
  · rw [heq]
    intro other t' ht'
    dsimp only at ht'
    by_cases hsame : other = index
    · subst hsame
      have hlt : other < c.threads.length := (List.getElem?_eq_some_iff.mp hget).1
      rw [List.getElem?_set_self hlt] at ht'
      rw [← Option.some.inj ht']
      exact hkept other t hget
    · rw [List.getElem?_set_ne (Ne.symm hsame)] at ht'
      exact hkept other t' ht'
  · rw [heq]
    exact hkept
  · rw [heq]
    exact hkept

/-- An operation is the first of its request, or the value that was read allows it. -/
theorem Informed.performs {c : Config Req Op Answer S α} {seen : Seen ρ}
    (hinformed : M.Informed allowed seen c) {index : Nat} {t : Thread Req Op Answer α} {op : Op}
    {next : Answer op → Program Op Answer α} (hget : c.threads[index]? = some t)
    (hrest : t.rest = .call op next) :
    M.handle t.request = .call op next ∨
      ∃ value, seen index = some value ∧ allowed t.request value op := by
  rcases hinformed index t hget with ⟨-, hhandle⟩ | ⟨-, value, hvalue, hperforms⟩
  · exact Or.inl (hhandle ▸ hrest)
  · rw [hrest] at hperforms
    exact Or.inr ⟨value, hvalue, hperforms.1⟩

/-- What holds of an event whenever the threads are informed holds along every run. -/
theorem along_informed (hgoes : M.GoesByFirstRead read allowed)
    {P : Config Req Op Answer S α × Seen ρ → Event Req Env → Prop}
    (hP : ∀ p e, M.Informed allowed p.2 p.1 → P p e) (s : S) (seen : Seen ρ)
    (events : List (Event Req Env)) :
    Trace.Along (Trace.withHistory M.apply (noteRead read)) P (⟨s, []⟩, seen) events := by
  have htrue : Trace.Along (Trace.withHistory M.apply (noteRead read)) (fun _ _ => True)
      (⟨s, []⟩, seen) events := Trace.along_of_forall (fun _ _ => trivial) _ _
  have hstep : ∀ (p : Config Req Op Answer S α × Seen ρ) (e : Event Req Env), M.Informed allowed p.2 p.1 →
      True → M.Informed allowed (Trace.withHistory M.apply (noteRead read) p e).2
        (Trace.withHistory M.apply (noteRead read) p e).1 :=
    fun p e hinformed _ => informed_apply hgoes p.1 p.2 e hinformed
  have hall := htrue.with_invariant hstep (informed_start s seen)
  exact hall.mono fun p e hboth => hP p e hboth.1

end System

end Interleaving
