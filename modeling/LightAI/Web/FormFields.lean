import LightAI.Base.FormText
import LightAI.Base.JsValue

/-!
# What is written of the fields of a form

A text field is written without the whitespace around it, and often not at all when it is blank. A list of
arguments is written from the lines of a text field. A number is written as it is.
-/

namespace LightAI.Web

open JsValue FormText

def emptyToNull (value : String) : Option String := if trim value = "" then none else some (trim value)

/-- A text field that is written unless it is blank. -/
def nonBlank (text : String) : Option JsValue := if trim text = "" then none else some (str (trim text))

/-- A list of arguments that is written unless it is empty. -/
def nonEmptyArgs (text : String) : Option JsValue :=
  if linesToArgs text = [] then none else some (texts (linesToArgs text))

/-- A number that is written unless it is the usual one. -/
def unusual (value : Option JsValue) (usual : ℚ) : Option JsValue :=
  value.filter fun found => found.asNumber ≠ some usual

/-- A text that is not blank is read as it was written, and written as it was read. -/
@[simp]
theorem nonBlank_textOr (text : String) : nonBlank (textOr (nonBlank text) "") = nonBlank text := by
  unfold nonBlank
  by_cases hblank : trim text = ""
  · rw [if_pos hblank]
    rfl
  · have hread : textOr (some (str (trim text))) "" = trim text := rfl
    rw [if_neg hblank, hread, trim_trim, if_neg hblank]

/-- A list of arguments that is not empty is read as it was written, and written as it was read. -/
@[simp]
theorem nonEmptyArgs_join (text : String) :
    nonEmptyArgs (Text.join (textsOf (nonEmptyArgs text))) = nonEmptyArgs text := by
  unfold nonEmptyArgs
  by_cases hnil : linesToArgs text = []
  · rw [if_pos hnil]
    rfl
  · rw [if_neg hnil, textsOf_texts, linesToArgs_join_linesToArgs, if_neg hnil]

theorem sameFields_numberOr_iff {value : Option JsValue} {fallback : ℚ} :
    SameFields value (some (num (numberOr value fallback))) ↔ IsNumber value := by
  have hall (value : Option JsValue) : value.filter (fun _ => true) = value := by
    cases value with
    | none => rfl
    | some found => rfl
  have hreread : SameFields (value.filter fun _ => true)
      ((some (num (numberOr (value.filter fun _ => true) fallback))).filter fun _ => true)
        ↔ IsNumber (value.filter fun _ => true) := sameFields_reread_of_written rfl
  rwa [hall, hall] at hreread

theorem numeric_unusual_iff {value : Option JsValue} (usual : ℚ) :
    Numeric (unusual value usual) ↔ Numeric value := by
  constructor
  · intro hwritten found hfound
    by_cases husual : found.asNumber = some usual
    · rw [husual]
      rfl
    · exact hwritten found (Option.mem_filter_iff.mpr ⟨hfound, decide_eq_true husual⟩)
  · intro hvalue found hfound
    exact hvalue found (Option.mem_filter_iff.mp hfound).1

theorem sameFields_unusual_iff {value : Option JsValue} {usual : ℚ} :
    SameFields (unusual value usual) (unusual (some (num (numberOr (unusual value usual) usual))) usual)
      ↔ Numeric value := by
  have husual : decide ((num usual).asNumber ≠ some usual) = false := decide_eq_false (not_not_intro rfl)
  rw [← numeric_unusual_iff usual]
  exact sameFields_reread_of_omitted husual

end LightAI.Web
