import LightAI.Base.Interleaving

/-!
# Where each thread stands

An invariant of the shared state, and of each thread by itself what holds while it stands where it does.
A thread's own step moves it on. The steps of the others must leave it where it stands, which may rest on
a condition on the events. Beside the state, an auxiliary value takes note of the operations.
-/

namespace Interleaving

universe u

variable {Req Env : Type} {Op : Type u} {Answer : Op → Type} {S α γ : Type}

/-- Dropped before its end. -/
def Thread.Abandoned (t : Thread Req Op Answer α) : Prop := t.dropped = true ∧ t.result = none

theorem Thread.not_abandoned_of_live {t : Thread Req Op Answer α} (hlive : t.dropped = false) :
    ¬ t.Abandoned := by
  rintro ⟨hdropped, -⟩
  simp [hlive] at hdropped

theorem Thread.not_abandoned_of_result {t : Thread Req Op Answer α} {value : α}
    (hresult : t.result = some value) : ¬ t.Abandoned := by
  rintro ⟨-, hnone⟩
  simp [hresult] at hnone

namespace System

variable {M : System Req Env Op Answer S α}

theorem performed_step {c : Config Req Op Answer S α} {index : Nat} {t : Thread Req Op Answer α} {op : Op}
    {next : Answer op → Program Op Answer α} (hget : c.threads[index]? = some t)
    (hlive : t.dropped = false) (hrest : t.rest = .call op next) :
    performed c (.step index : Event Req Env) = some (t, op) := by
  simp [performed, hget, hlive, hrest]

/-- The auxiliary value after an event. -/
def noted (note : Op → S → γ → γ) (c : Config Req Op Answer S α) (e : Event Req Env) (g : γ) : γ :=
  match performed c e with
  | some (_, op) => note op c.shared g
  | none => g

structure Threadwise (Inv : γ → S → Prop) (Stands : γ → S → Thread Req Op Answer α → Prop) (g : γ)
    (c : Config Req Op Answer S α) : Prop where
  shared : Inv g c.shared
  threads : ∀ (index : Nat) t, c.threads[index]? = some t → ¬ t.Abandoned → Stands g c.shared t

variable {note : Op → S → γ → γ} {Inv : γ → S → Prop} {Stands : γ → S → Thread Req Op Answer α → Prop}
  {ok : Config Req Op Answer S α → Event Req Env → Prop}

theorem threadwise_apply
    (hspawn : ∀ g s request, Inv g s → Stands g s { request, rest := M.handle request })
    (hown : ∀ g c (index : Nat) t op next, Threadwise Inv Stands g c → ok c (.step index) →
      c.threads[index]? = some t → t.dropped = false → t.rest = .call op next → Stands g c.shared t →
      Inv (note op c.shared g) (M.exec op c.shared).2 ∧
        Stands (note op c.shared g) (M.exec op c.shared).2
          { t with rest := next (M.exec op c.shared).1, done := op :: t.done })
    (hother : ∀ g c (index : Nat) t op next (other : Nat) t', Threadwise Inv Stands g c →
      ok c (.step index) → c.threads[index]? = some t → t.dropped = false → t.rest = .call op next →
      other ≠ index → c.threads[other]? = some t' → ¬ t'.Abandoned →
      Stands (note op c.shared g) (M.exec op c.shared).2 t')
    (hdrop : ∀ g s t, Stands g s t → Stands g s { t with dropped := true })
    (hact : ∀ g s action, Inv g s → Inv g (M.act action s))
    (hactStands : ∀ g s action t, Inv g s → Stands g s t → Stands g (M.act action s) t)
    (c : Config Req Op Answer S α) (g : γ) (e : Event Req Env) (h : Threadwise Inv Stands g c)
    (hok : ok c e) : Threadwise Inv Stands (noted note c e g) (M.apply c e) := by
  rcases apply_cases (M := M) c e with ⟨request, -, hnone, heq⟩ |
    ⟨index, t, op, next, rfl, hget, hlive, hrest, hperf, heq⟩ | ⟨index, t, -, hget, hnone, heq⟩ |
    ⟨action, -, hnone, heq⟩ | ⟨hnone, heq⟩
  · simp only [noted, hnone, heq]
    refine ⟨h.shared, fun index t ht hstays => ?_⟩
    dsimp only at ht ⊢
    by_cases hlt : index < c.threads.length
    · rw [List.getElem?_append_left hlt] at ht
      exact h.threads index t ht hstays
    · rw [List.getElem?_append_right (by omega)] at ht
      have hnew : t = { request, rest := M.handle request } :=
        List.mem_singleton.mp (List.mem_of_getElem? ht)
      rw [hnew]
      exact hspawn g c.shared request h.shared
  · simp only [noted, hperf, heq]
    have hhere := h.threads index t hget (Thread.not_abandoned_of_live hlive)
    have hmoved := hown g c index t op next h hok hget hlive hrest hhere
    refine ⟨hmoved.1, fun other t' ht' hstays => ?_⟩
    dsimp only at ht' ⊢
    by_cases hsame : other = index
    · subst hsame
      have hlt : other < c.threads.length := (List.getElem?_eq_some_iff.mp hget).1
      rw [List.getElem?_set_self hlt] at ht'
      rw [← Option.some.inj ht']
      exact hmoved.2
    · rw [List.getElem?_set_ne (Ne.symm hsame)] at ht'
      exact hother g c index t op next other t' h hok hget hlive hrest hsame ht' hstays
  · simp only [noted, hnone, heq]
    refine ⟨h.shared, fun other t' ht' hstays => ?_⟩
    dsimp only at ht' ⊢
    by_cases hsame : other = index
    · subst hsame
      have hlt : other < c.threads.length := (List.getElem?_eq_some_iff.mp hget).1
      rw [List.getElem?_set_self hlt] at ht'
      obtain rfl := Option.some.inj ht'
      have hended : ¬ t.Abandoned := by
        intro habandoned
        exact hstays ⟨rfl, habandoned.2⟩
      exact hdrop g c.shared t (h.threads other t hget hended)
    · rw [List.getElem?_set_ne (Ne.symm hsame)] at ht'
      exact h.threads other t' ht' hstays
  · simp only [noted, hnone, heq]
    refine ⟨hact g c.shared action h.shared, fun index t ht hstays => ?_⟩
    exact hactStands g c.shared action t h.shared (h.threads index t ht hstays)
  · simp only [noted, hnone, heq]
    exact h

/-- With no thread under way there is only the shared state to look at. -/
theorem threadwise_start {g : γ} {s : S} (h : Inv g s) :
    Threadwise Inv Stands g (⟨s, []⟩ : Config Req Op Answer S α) where
  shared := h
  threads index t ht := by simp at ht

theorem Threadwise.of_mem {g : γ} {c : Config Req Op Answer S α} (h : Threadwise Inv Stands g c)
    {t : Thread Req Op Answer α} (ht : t ∈ c.threads) (hstays : ¬ t.Abandoned) :
    Stands g c.shared t := by
  obtain ⟨index, hget⟩ := List.getElem?_of_mem ht
  exact h.threads index t hget hstays

/-! ### Rely and guarantee, request by request -/

section RobustAs

variable {Inv : S → Prop} {rely : S → S → Prop} {pre : List Op → S → Op → Prop}
  {post : Req → List Op → α → Prop}

/-- The thread is robust from where it stands, and ends as its own request allows. -/
def RobustAs (M : System Req Env Op Answer S α) (rely : S → S → Prop) (pre : List Op → S → Op → Prop)
    (post : Req → List Op → α → Prop) (_ : Unit) (s : S) (t : Thread Req Op Answer α) : Prop :=
  t.rest.Robust M.exec rely pre (fun done _ value => post t.request done value) t.done s

/-- If what a permitted operation does keeps the invariant and is relied on, and so does the environment,
then every thread stays robust. -/
theorem threadwise_robustAs (htrans : ∀ s t u, rely s t → rely t u → rely s u)
    (hrefl : ∀ s, Inv s → rely s s)
    (hexec : ∀ done op s, Inv s → pre done s op →
      Inv (M.exec op s).2 ∧ rely s (M.exec op s).2)
    (hact : ∀ action s, Inv s → Inv (M.act action s) ∧ rely s (M.act action s))
    (hhandle : ∀ request s, Inv s →
      (M.handle request).Robust M.exec rely pre (fun done _ value => post request done value) [] s)
    (c : Config Req Op Answer S α) (e : Event Req Env)
    (h : Threadwise (fun _ s => Inv s) (RobustAs M rely pre post) () c) :
    Threadwise (fun _ s => Inv s) (RobustAs M rely pre post) () (M.apply c e) := by
  have hpermitted : ∀ {s : S} {t : Thread Req Op Answer α} {op : Op} {next}, Inv s → t.rest = .call op next →
      RobustAs M rely pre post () s t → pre t.done s op ∧
        (next (M.exec op s).1).Robust M.exec rely pre (fun done _ value => post t.request done value)
          (op :: t.done) (M.exec op s).2 := by
    intro s t op next hinv hrest hstands
    unfold RobustAs at hstands
    rw [hrest] at hstands
    exact hstands s (hrefl s hinv)
  have hnoted : noted (fun _ _ g => g) c e () = () := rfl
  rw [← hnoted]
  refine @threadwise_apply Req Env Op Answer S α Unit M (fun _ _ g => g) (fun _ s => Inv s)
    (RobustAs M rely pre post) (fun _ _ => True) ?_ ?_ ?_ ?_ ?_ ?_ c () e h trivial
  · intro _ s request hinv
    exact hhandle request s hinv
  · intro _ c index t op next hall _ hget hlive hrest hstands
    obtain ⟨hpre, hnext⟩ := hpermitted hall.shared hrest hstands
    exact ⟨(hexec t.done op c.shared hall.shared hpre).1, hnext⟩
  · intro _ c index t op next other t' hall _ hget hlive hrest hne hget' hstays
    have hmover := hall.threads index t hget (Thread.not_abandoned_of_live hlive)
    have hpre := (hpermitted hall.shared hrest hmover).1
    have hothers := (hexec t.done op c.shared hall.shared hpre).2
    exact (hall.threads other t' hget' hstays).weaken htrans (fun _ _ _ _ _ h => h) hothers
  · intro _ s t hstands
    exact hstands
  · intro _ s action hinv
    exact (hact action s hinv).1
  · intro _ s action t hinv hstands
    exact hstands.weaken htrans (fun _ _ _ _ _ h => h) (hact action s hinv).2

theorem Threadwise.permitted (hrefl : ∀ s, Inv s → rely s s) {c : Config Req Op Answer S α}
    {e : Event Req Env} {t : Thread Req Op Answer α} {op : Op}
    (h : Threadwise (fun _ s => Inv s) (RobustAs M rely pre post) () c)
    (hperf : System.performed c e = some (t, op)) : pre t.done c.shared op := by
  rcases apply_cases (M := M) c e with ⟨request, -, hnone, -⟩ |
    ⟨index, t', op', next, -, hget, hlive, hrest, hperf', -⟩ | ⟨index, t', -, -, hnone, -⟩ |
    ⟨action, -, hnone, -⟩ | ⟨hnone, -⟩
  · simp [hnone] at hperf
  · rw [hperf'] at hperf
    obtain ⟨rfl, rfl⟩ := Prod.mk.inj (Option.some.inj hperf)
    have hrobust := h.threads index t' hget (Thread.not_abandoned_of_live hlive)
    unfold RobustAs at hrobust
    rw [hrest] at hrobust
    exact (hrobust c.shared (hrefl _ h.shared)).1
  · simp [hnone] at hperf
  · simp [hnone] at hperf
  · simp [hnone] at hperf

theorem Threadwise.answer {c : Config Req Op Answer S α} {t : Thread Req Op Answer α} {value : α}
    (h : Threadwise (fun _ s => Inv s) (RobustAs M rely pre post) () c) (ht : t ∈ c.threads)
    (hresult : t.result = some value) : post t.request t.done value := by
  have hrobust := h.of_mem ht (Thread.not_abandoned_of_result hresult)
  unfold Thread.result at hresult
  unfold RobustAs at hrobust
  cases hrest : t.rest with
  | ret value' =>
      rw [hrest] at hresult hrobust
      rwa [← Option.some.inj hresult]
  | call op next => simp [hrest] at hresult

end RobustAs

end System

end Interleaving
