import LightAI.Base.Trace

/-!
# Counting the events of a run against a potential

Where no event raises the potential and every counted one lowers it, a run has at most as many counted
events as its start has potential to spend.
-/

namespace Trace

variable {σ ε : Type*} (step : σ → ε → σ)

/-- The number of events of the run that are counted in the state in which they happen. -/
def count (counted : σ → ε → Bool) : σ → List ε → Nat
  | _, [] => 0
  | s, e :: events => (counted s e).toNat + count counted (step s e) events

@[simp]
theorem count_nil (counted : σ → ε → Bool) (s : σ) : count step counted s [] = 0 := rfl

@[simp]
theorem count_cons (counted : σ → ε → Bool) (s : σ) (e : ε) (events : List ε) :
    count step counted s (e :: events)
      = (counted s e).toNat + count step counted (step s e) events := rfl

variable {step}

/-- What is left of the potential after the run, and what the counted events have spent of it. -/
theorem count_add_le {counted : σ → ε → Bool} {ok : σ → ε → Prop} {potential : σ → Nat}
    (hstep : ∀ s e, ok s e → (counted s e).toNat + potential (step s e) ≤ potential s) {s : σ}
    {events : List ε} (hok : Along step ok s events) :
    count step counted s events + potential (run step s events) ≤ potential s := by
  induction events generalizing s with
  | nil => simp
  | cons e events ih =>
      have hrest := ih hok.2
      have hhere := hstep s e hok.1
      rw [count_cons, run_cons]
      omega

end Trace
