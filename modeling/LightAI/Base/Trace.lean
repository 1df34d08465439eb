import Mathlib

/-!
# Runs of a transition function

A system is a total transition function `step : σ → ε → σ`, an event that is not enabled leaving the
state as it is. A run is then any list of events, so a statement about every run is a statement
about every list, and an interleaving is nothing but an order of the events.
-/

namespace Trace

variable {σ ε γ : Type*} (step : σ → ε → σ)

/-- The state after the events of a run. -/
def run (s : σ) (events : List ε) : σ := events.foldl step s

@[simp]
theorem run_nil (s : σ) : run step s [] = s := rfl

@[simp]
theorem run_cons (s : σ) (e : ε) (events : List ε) :
    run step s (e :: events) = run step (step s e) events := rfl

@[simp]
theorem run_append (s : σ) (first second : List ε) :
    run step s (first ++ second) = run step (run step s first) second := by
  simp [run]

/-- Every event of the run meets `ok` in the state in which it happens. -/
def Along (ok : σ → ε → Prop) : σ → List ε → Prop
  | _, [] => True
  | s, e :: events => ok s e ∧ Along ok (step s e) events

@[simp]
theorem along_nil (ok : σ → ε → Prop) (s : σ) : Along step ok s [] := trivial

@[simp]
theorem along_cons (ok : σ → ε → Prop) (s : σ) (e : ε) (events : List ε) :
    Along step ok s (e :: events) ↔ ok s e ∧ Along step ok (step s e) events := Iff.rfl

instance decidableAlong (ok : σ → ε → Prop) [∀ s e, Decidable (ok s e)] :
    ∀ (s : σ) (events : List ε), Decidable (Along step ok s events)
  | _, [] => isTrue trivial
  | s, e :: events =>
      have := decidableAlong ok (step s e) events
      inferInstanceAs (Decidable (ok s e ∧ Along step ok (step s e) events))

theorem along_append (ok : σ → ε → Prop) (s : σ) (first second : List ε) :
    Along step ok s (first ++ second) ↔
      Along step ok s first ∧ Along step ok (run step s first) second := by
  induction first generalizing s with
  | nil => simp
  | cons e first ih => simp only [List.cons_append, along_cons, run_cons, ih, and_assoc]

theorem along_iff (ok : σ → ε → Prop) (s : σ) (events : List ε) :
    Along step ok s events ↔
      ∀ pre e post, events = pre ++ e :: post → ok (run step s pre) e := by
  induction events generalizing s with
  | nil => simp
  | cons head events ih =>
      rw [along_cons, ih]
      constructor
      · rintro ⟨hhead, htail⟩ pre e post hsplit
        cases pre with
        | nil =>
            obtain ⟨rfl, -⟩ := List.cons.inj hsplit
            exact hhead
        | cons first pre =>
            obtain ⟨rfl, hrest⟩ := List.cons.inj hsplit
            exact htail pre e post hrest
      · intro hall
        refine ⟨hall [] head events rfl, fun pre e post hsplit => ?_⟩
        exact hall (head :: pre) e post (by rw [hsplit, List.cons_append])

variable {step}

theorem Along.mono {ok ok' : σ → ε → Prop} {s : σ} {events : List ε}
    (h : Along step ok s events) (himp : ∀ s e, ok s e → ok' s e) : Along step ok' s events := by
  induction events generalizing s with
  | nil => trivial
  | cons e events ih => exact ⟨himp s e h.1, ih h.2⟩

theorem along_of_forall {ok : σ → ε → Prop} (h : ∀ s e, ok s e) (s : σ) (events : List ε) :
    Along step ok s events := by
  induction events generalizing s with
  | nil => trivial
  | cons e events ih => exact ⟨h s e, ih _⟩

theorem Along.and {ok ok' : σ → ε → Prop} {s : σ} {events : List ε} (h : Along step ok s events)
    (h' : Along step ok' s events) : Along step (fun s e => ok s e ∧ ok' s e) s events := by
  induction events generalizing s with
  | nil => trivial
  | cons e events ih => exact ⟨⟨h.1, h'.1⟩, ih h.2 h'.2⟩

/-- Where two conditions come to the same at every event, they come to the same along the run. -/
theorem Along.congr {ok ok' : σ → ε → Prop} {s : σ} {events : List ε}
    (h : Along step (fun s e => ok s e ↔ ok' s e) s events) :
    Along step ok s events ↔ Along step ok' s events := by
  constructor
  · intro hok
    exact (h.and hok).mono fun s e hboth => hboth.1.mp hboth.2
  · intro hok'
    exact (h.and hok').mono fun s e hboth => hboth.1.mpr hboth.2

/-- An invariant that every permitted event preserves holds after the whole run. -/
theorem run_invariant {ok : σ → ε → Prop} {Inv : σ → Prop}
    (hstep : ∀ s e, Inv s → ok s e → Inv (step s e)) {s : σ} {events : List ε}
    (hinit : Inv s) (hok : Along step ok s events) : Inv (run step s events) := by
  induction events generalizing s with
  | nil => exact hinit
  | cons e events ih => exact ih (hstep s e hinit hok.1) hok.2

/-- The invariant also strengthens what is known of every event of the run. -/
theorem Along.with_invariant {ok : σ → ε → Prop} {Inv : σ → Prop}
    (hstep : ∀ s e, Inv s → ok s e → Inv (step s e)) {s : σ} {events : List ε}
    (hinit : Inv s) (hok : Along step ok s events) :
    Along step (fun s e => Inv s ∧ ok s e) s events := by
  induction events generalizing s with
  | nil => trivial
  | cons e events ih => exact ⟨⟨hinit, hok.1⟩, ih (hstep s e hinit hok.1) hok.2⟩

/-- `P` holds in every state that the run passes through. -/
def Always (step : σ → ε → σ) (P : σ → Prop) (s : σ) (events : List ε) : Prop :=
  ∀ pre post, events = pre ++ post → P (run step s pre)

@[simp]
theorem always_nil {P : σ → Prop} {s : σ} : Always step P s [] ↔ P s := by
  constructor
  · intro h
    exact h [] [] rfl
  · intro h pre post hsplit
    obtain ⟨rfl, -⟩ := List.append_eq_nil_iff.mp hsplit.symm
    exact h

@[simp]
theorem always_cons {P : σ → Prop} {s : σ} {e : ε} {events : List ε} :
    Always step P s (e :: events) ↔ P s ∧ Always step P (step s e) events := by
  constructor
  · intro h
    exact ⟨h [] _ rfl, fun pre post hsplit => h (e :: pre) post (by rw [hsplit, List.cons_append])⟩
  · rintro ⟨hhere, hlater⟩ pre post hsplit
    cases pre with
    | nil => exact hhere
    | cons first pre =>
        obtain ⟨rfl, hrest⟩ := List.cons.inj hsplit
        exact hlater pre post hrest

theorem always_of_invariant {ok : σ → ε → Prop} {Inv P : σ → Prop}
    (hstep : ∀ s e, Inv s → ok s e → Inv (step s e)) (himp : ∀ s, Inv s → P s) {s : σ}
    {events : List ε} (hinit : Inv s) (hok : Along step ok s events) :
    Always step P s events := by
  rintro pre post rfl
  exact himp _ (run_invariant hstep hinit ((along_append step ok s pre post).mp hok).1)

/-- Where a step keeps `P` exactly when the event meets `ok`, the runs that never leave `P` are the
runs whose events all meet `ok`. `Inv` is kept for as long as `P` holds, and helps to see it. -/
theorem always_iff_along_within {ok : σ → ε → Prop} {Inv P : σ → Prop}
    (hinv : ∀ s e, Inv s → P s → Inv (step s e))
    (hstep : ∀ s e, Inv s → P s → (P (step s e) ↔ ok s e)) {s : σ} {events : List ε}
    (hinitInv : Inv s) (hinit : P s) : Always step P s events ↔ Along step ok s events := by
  induction events generalizing s with
  | nil => simpa using hinit
  | cons e events ih =>
      rw [always_cons, along_cons]
      constructor
      · rintro ⟨-, hlater⟩
        have hnext : P (step s e) := hlater [] events rfl
        exact ⟨(hstep s e hinitInv hinit).mp hnext, (ih (hinv s e hinitInv hinit) hnext).mp hlater⟩
      · rintro ⟨hok, hrest⟩
        have hnext : P (step s e) := (hstep s e hinitInv hinit).mpr hok
        exact ⟨hinit, (ih (hinv s e hinitInv hinit) hnext).mpr hrest⟩

/-- The same, where `Inv` holds along every run. -/
theorem always_iff_along {ok : σ → ε → Prop} {Inv P : σ → Prop}
    (hinv : ∀ s e, Inv s → Inv (step s e))
    (hstep : ∀ s e, Inv s → P s → (P (step s e) ↔ ok s e)) {s : σ} {events : List ε}
    (hinitInv : Inv s) (hinit : P s) : Always step P s events ↔ Along step ok s events :=
  always_iff_along_within (fun s e hs _ => hinv s e hs) hstep hinitInv hinit

/-- Any state of the run and any later one are related by `R`. -/
def Chain (step : σ → ε → σ) (R : σ → σ → Prop) (s : σ) (events : List ε) : Prop :=
  ∀ pre mid post, events = pre ++ mid ++ post → R (run step s pre) (run step s (pre ++ mid))

/-- For a reflexive and transitive relation it is enough, and necessary, to look at single steps. -/
theorem chain_iff_along {R : σ → σ → Prop} (hrefl : ∀ s, R s s)
    (htrans : ∀ s t u, R s t → R t u → R s u) {s : σ} {events : List ε} :
    Chain step R s events ↔ Along step (fun s e => R s (step s e)) s events := by
  rw [along_iff]
  constructor
  · intro h pre e post hsplit
    simpa using h pre [e] post (by rw [hsplit]; simp)
  · intro h pre mid
    induction mid using List.reverseRecOn with
    | nil => intro post _; simpa using hrefl _
    | append_singleton mid e ih =>
        intro post hsplit
        have hpre := ih (e :: post) (by rw [hsplit]; simp)
        have hlast := h (pre ++ mid) e post (by rw [hsplit]; simp)
        refine htrans _ _ _ hpre ?_
        simpa [← List.append_assoc] using hlast

/-- What has `P` once keeps it for as long as it is there. -/
def KeptWhileThere (step : σ → ε → σ) (there : σ → Option γ) (P : γ → Prop) (s : σ)
    (events : List ε) : Prop :=
  ∀ pre mid post, events = pre ++ mid ++ post →
    ∀ r, there (run step s pre) = some r → P r →
      Always step (fun s => (there s).isSome = true) (run step s pre) mid →
        ∀ r', there (run step s (pre ++ mid)) = some r' → P r'

theorem keptWhileThere_of_along {there : σ → Option γ} {P : γ → Prop} {s : σ} {events : List ε}
    (h : Along step (fun s e => ∀ r r', there s = some r → P r → there (step s e) = some r' → P r')
      s events) : KeptWhileThere step there P s events := by
  intro pre mid post hsplit r hr hP hthere
  rw [hsplit, List.append_assoc, along_append, along_append] at h
  have hmid := h.2.1
  rw [run_append]
  generalize run step s pre = t at hr hthere hmid
  clear h hsplit
  induction mid generalizing t r with
  | nil =>
      intro r' hr'
      rw [run_nil, hr] at hr'
      rwa [← Option.some.inj hr']
  | cons e mid ih =>
      rw [always_cons] at hthere
      have hnext : (there (step t e)).isSome = true := hthere.2 [] mid rfl
      obtain ⟨r', hr'⟩ := Option.isSome_iff_exists.mp hnext
      exact ih r' (hmid.1 r r' hr hP hr') (step t e) hr' hthere.2 hmid.2

/-! ### Auxiliary variables

What a claim has to remember of the past of a run (who wrote a row last, which update is the latest)
is a value of its own, computed beside the state and never read by it. -/

section History

variable (step) (record : σ → ε → γ → γ)

/-- The system with the auxiliary variable beside its state. -/
def withHistory (p : σ × γ) (e : ε) : σ × γ := (step p.1 e, record p.1 e p.2)

/-- The auxiliary variable after a run. -/
def history (s : σ) (g : γ) (events : List ε) : γ := (run (withHistory step record) (s, g) events).2

@[simp]
theorem run_withHistory_fst (p : σ × γ) (events : List ε) :
    (run (withHistory step record) p events).1 = run step p.1 events := by
  induction events generalizing p with
  | nil => rfl
  | cons e events ih => exact ih _

theorem run_withHistory (s : σ) (g : γ) (events : List ε) :
    run (withHistory step record) (s, g) events
      = (run step s events, history step record s g events) :=
  Prod.ext (run_withHistory_fst step record (s, g) events) rfl

@[simp]
theorem history_nil (s : σ) (g : γ) : history step record s g [] = g := rfl

@[simp]
theorem history_cons (s : σ) (g : γ) (e : ε) (events : List ε) :
    history step record s g (e :: events) = history step record (step s e) (record s e g) events :=
  rfl

theorem history_append (s : σ) (g : γ) (first second : List ε) :
    history step record s g (first ++ second)
      = history step record (run step s first) (history step record s g first) second := by
  induction first generalizing s g with
  | nil => rfl
  | cons e first ih => exact ih _ _

variable {step record}

/-- An invariant of the state together with its auxiliary variable. -/
theorem history_invariant {ok : σ → ε → Prop} {Inv : σ → γ → Prop}
    (hstep : ∀ s g e, Inv s g → ok s e → Inv (step s e) (record s e g)) {s : σ} {g : γ}
    {events : List ε} (hinit : Inv s g) (hok : Along step ok s events) :
    Inv (run step s events) (history step record s g events) := by
  induction events generalizing s g with
  | nil => exact hinit
  | cons e events ih => exact ih (hstep s g e hinit hok.1) hok.2

end History

end Trace
