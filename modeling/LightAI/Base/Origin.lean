import LightAI.Base.Trace

/-!
# Where something that holds comes from

What holds after a run and did not hold before it was brought about by an event of the run, the last that
brought it about, and has held at every moment since.
-/

namespace Trace

variable {σ ε : Type} {step : σ → ε → σ} {holds : σ → Prop} {causes : σ → ε → Prop}

/-- An event of the run brings it about, and it holds after that event and after each later one. -/
def Since (step : σ → ε → σ) (causes : σ → ε → Prop) (holds : σ → Prop) (s : σ) (events : List ε) : Prop :=
  ∃ before e after, events = before ++ e :: after ∧ causes (run step s before) e
    ∧ holds (run step s (before ++ [e]))
    ∧ Along step (fun t e => holds (step t e)) (run step s (before ++ [e])) after

theorem Since.append {s : σ} {events : List ε} (e : ε) (h : Since step causes holds s events)
    (hholds : holds (run step s (events ++ [e]))) : Since step causes holds s (events ++ [e]) := by
  obtain ⟨before, cause, after, rfl, hcause, hafter, halong⟩ := h
  refine ⟨before, cause, after ++ [e], ?_, hcause, hafter, ?_⟩
  · rw [List.append_assoc, List.cons_append]
  · have hsplit : before ++ cause :: after = (before ++ [cause]) ++ after := by simp
    rw [along_append]
    refine ⟨halong, ?_, trivial⟩
    rw [run_append, hsplit, run_append] at hholds
    exact hholds

theorem since_of_holds (hstep : ∀ t e, holds (step t e) → holds t ∨ causes t e) {s : σ} (hstart : ¬ holds s)
    (events : List ε) (hholds : holds (run step s events)) : Since step causes holds s events := by
  induction events using List.reverseRecOn with
  | nil => exact absurd hholds hstart
  | append_singleton events e ih =>
      have hlast := hholds
      rw [run_append, run_cons, run_nil] at hlast
      rcases hstep _ e hlast with hbefore | hcause
      · exact (ih hbefore).append e hholds
      · exact ⟨events, e, [], rfl, hcause, hholds, trivial⟩

/-- The event that brought it about. -/
theorem Since.cause {s : σ} {events : List ε} (h : Since step causes holds s events) :
    ∃ before e after, events = before ++ e :: after ∧ causes (run step s before) e := by
  obtain ⟨before, e, after, hsplit, hcause, -⟩ := h
  exact ⟨before, e, after, hsplit, hcause⟩

end Trace
