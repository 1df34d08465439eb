import LightAI.Base.Program

/-!
# Programs whose operations are noted

What has to be remembered of the operations of a run is kept in notes beside the state. The notes are taken
at each operation, from the state in which it is performed, and the program never reads them.
-/

namespace Program

variable {Op : Type} {Answer : Op → Type} {S γ α β : Type} (exec : (op : Op) → S → Answer op × S)
  (note : (op : Op) → S → γ → γ)

/-- An operation together with its note. -/
def noting (op : Op) (s : S × γ) : Answer op × (S × γ) :=
  ((exec op s.1).1, ((exec op s.1).2, note op s.1 s.2))

/-- The notes do not change what the program returns. -/
theorem run_noting_value (p : Program Op Answer α) (s : S × γ) :
    (p.run (noting exec note) s).1 = (p.run exec s.1).1 := by
  induction p generalizing s with
  | ret value => rfl
  | call op next ih => exact ih _ _

/-- The notes do not change the state that the program leaves. -/
theorem run_noting_state (p : Program Op Answer α) (s : S × γ) :
    (p.run (noting exec note) s).2.1 = (p.run exec s.1).2 := by
  induction p generalizing s with
  | ret value => rfl
  | call op next ih => exact ih _ _

end Program
