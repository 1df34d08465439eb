import Mathlib

/-!
# Sums of machine numbers

The sum of two numbers of a fixed width may be too large for the width. A program that is built with overflow
checks does not get past such a sum, and one that is built without them goes on with what the width holds of
it.
-/

namespace MachineSum

inductive Build where
  | debug
  | release

/-- The sum of two numbers of `bits` bits, if the program gets past it. -/
def add (build : Build) (bits a b : Nat) : Option Nat :=
  match build with
  | .debug => if a + b < 2 ^ bits then some (a + b) else none
  | .release => some ((a + b) % 2 ^ bits)

variable {bits a b c : Nat}

/-- A sum that fits is the same in both builds. -/
theorem add_of_fits (hfits : a + b < 2 ^ bits) (build : Build) : add build bits a b = some (a + b) := by
  cases build with
  | debug => exact if_pos hfits
  | release => exact congrArg some (Nat.mod_eq_of_lt hfits)

theorem add_debug_eq_some_iff : add .debug bits a b = some c ↔ a + b < 2 ^ bits ∧ a + b = c := by
  by_cases hfits : a + b < 2 ^ bits
  · rw [add_of_fits hfits, Option.some_inj]
    exact (and_iff_right hfits).symm
  · have hpanics : add .debug bits a b = none := if_neg hfits
    rw [hpanics]
    exact iff_of_false (fun h => by cases h) fun h => hfits h.1

end MachineSum
