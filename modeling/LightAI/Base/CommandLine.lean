import Mathlib

/-!
# Command lines

Arguments that stand two by two, an option and its value. What an option is given can be read off them, and
the arguments can be read back into the options that they were made of.
-/

namespace CommandLine

/-- Options with their values, in order. -/
abbrev Options := List (String × String)

def arguments (options : Options) : List String :=
  options.flatMap fun given => [given.1, given.2]

/-- The values that an option is given. -/
def values (option : String) (options : Options) : List String :=
  options.filterMap fun given => if given.1 = option then some given.2 else none

/-- One option, with each of some values. -/
def repeated (option : String) (given : List String) : Options := given.map fun value => (option, value)

/-- Arguments read two by two. -/
def pairs : List String → Options
  | option :: value :: rest => (option, value) :: pairs rest
  | _ => []

@[simp]
theorem arguments_nil : arguments [] = [] := rfl

@[simp]
theorem arguments_append (left right : Options) :
    arguments (left ++ right) = arguments left ++ arguments right :=
  List.flatMap_append

theorem arguments_repeated (option : String) (given : List String) :
    arguments (repeated option given) = given.flatMap fun value => [option, value] := by
  unfold arguments repeated
  rw [List.flatMap_map]

@[simp]
theorem values_nil (option : String) : values option [] = [] := rfl

@[simp]
theorem values_append (option : String) (left right : Options) :
    values option (left ++ right) = values option left ++ values option right :=
  List.filterMap_append

@[simp]
theorem values_repeated (option other : String) (given : List String) :
    values option (repeated other given) = if other = option then given else [] := by
  unfold values repeated
  rw [List.filterMap_map]
  by_cases hsame : other = option
  · simp [hsame]
  · simp [hsame]

/-- Reading two by two gives the options back. -/
theorem pairs_arguments_append (options : Options) (rest : List String) :
    pairs (arguments options ++ rest) = options ++ pairs rest := by
  induction options with
  | nil => rfl
  | cons given options ih => exact congrArg (given :: ·) ih

@[simp]
theorem pairs_arguments (options : Options) : pairs (arguments options) = options := by
  have h := pairs_arguments_append options []
  rw [List.append_nil] at h
  rw [h]
  exact List.append_nil options

end CommandLine
