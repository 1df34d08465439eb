import Mathlib.Data.List.Nodup
import Mathlib.Data.Rat.Defs
import Mathlib.Tactic.Basic

/-!
# JavaScript values

What a script holds after it has read a JSON text, and what the text of a record it writes will be read as.
`undefined` is `none`: no value that is written holds it, since a record is written without the fields that are
undefined. Numbers are rational: a double that is no `NaN` and not infinite is written and read exactly.

Two values have the same fields when the same paths lead to the same values in them, whatever the order of the
fields.
-/

inductive JsValue where
  | null
  | bool (value : Bool)
  | num (value : ℚ)
  | str (value : String)
  | arr (items : List JsValue)
  | obj (fields : List (String × JsValue))

namespace JsValue

/-- `value?.key`. -/
def get : Option JsValue → String → Option JsValue
  | some (obj fields), key => fields.lookup key
  | _, _ => none

def truthy : JsValue → Bool
  | null => false
  | bool value => value
  | num value => value ≠ 0
  | str value => value ≠ ""
  | arr _ => true
  | obj _ => true

def isNull : JsValue → Bool
  | null => true
  | _ => false

def asNumber : JsValue → Option ℚ
  | num value => some value
  | _ => none

def asText : JsValue → Option String
  | str value => some value
  | _ => none

def asArray : JsValue → Option (List JsValue)
  | arr items => some items
  | _ => none

/-- `value || fallback`. -/
def orElse (value : Option JsValue) (fallback : JsValue) : JsValue := (value.filter truthy).getD fallback

/-- `value ?? fallback`. -/
def coalesce (value : Option JsValue) (fallback : JsValue) : JsValue :=
  (value.filter fun found => !found.isNull).getD fallback

/-- `typeof value === "number" ? value : fallback`. -/
def numberOr (value : Option JsValue) (fallback : ℚ) : ℚ := (value.bind asNumber).getD fallback

/-- `typeof value === "string" ? value : fallback`. -/
def textOr (value : Option JsValue) (fallback : String) : String := (value.bind asText).getD fallback

/-- `typeof value === "number"`. -/
def IsNumber (value : Option JsValue) : Prop := (value.bind asNumber).isSome

/-- A value that is undefined or a number. -/
def Numeric (value : Option JsValue) : Prop := ∀ found ∈ value, found.asNumber.isSome

instance (value : Option JsValue) : Decidable (IsNumber value) :=
  inferInstanceAs (Decidable ((value.bind asNumber).isSome = true))

instance (value : Option JsValue) : Decidable (Numeric value) :=
  inferInstanceAs (Decidable (∀ found ∈ value, found.asNumber.isSome = true))

/-- The texts of an array, none of anything else. -/
def textsOf (value : Option JsValue) : List String := ((value.bind asArray).getD []).filterMap asText

/-- An array of texts. -/
def texts (items : List String) : JsValue := arr (items.map str)

/-- What the language makes of a value where it needs a number or a text. -/
structure Conversions where
  /-- `Number(value)` of a text, an array or an object, none for `NaN`. -/
  number : JsValue → Option ℚ
  /-- `String(value)`. -/
  text : JsValue → String

variable (conversions : Conversions)

/-- `Number(value)`, none for `NaN`. -/
def toNumber : Option JsValue → Option ℚ
  | none => none
  | some null => some 0
  | some (bool value) => some (if value then 1 else 0)
  | some (num value) => some value
  | some value => conversions.number value

/-- `value >= bound`. -/
def atLeast (value : Option JsValue) (bound : ℚ) : Bool :=
  (toNumber conversions value).any fun number => bound ≤ number

/-- `value <= bound`. -/
def atMost (value : Option JsValue) (bound : ℚ) : Bool :=
  (toNumber conversions value).any fun number => number ≤ bound

/-- `value < bound`. -/
def lessThan (value : Option JsValue) (bound : ℚ) : Bool :=
  (toNumber conversions value).any fun number => number < bound

/-- `value > bound`. -/
def moreThan (value : Option JsValue) (bound : ℚ) : Bool :=
  (toNumber conversions value).any fun number => bound < number

/-- A part of an array that is joined. -/
def joined : JsValue → String
  | null => ""
  | str value => value
  | value => conversions.text value

/-- What the text of a record is read as: the record without the fields that are undefined. -/
def record (fields : List (String × Option JsValue)) : JsValue :=
  obj (fields.filterMap fun field => field.2.map fun value => (field.1, value))

/-- A value without what it holds. Only the parts of an object can be reached by a path. -/
def shape : JsValue → JsValue
  | obj _ => obj []
  | value => value

/-- What a path leads to. -/
def along : Option JsValue → List String → Option JsValue
  | value, [] => value.map shape
  | value, key :: path => along (get value key) path

def SameFields (left right : Option JsValue) : Prop := ∀ path, along left path = along right path

end JsValue

/-- A column that may hold a JSON text, with the value that the text is read as. -/
inductive JsonText where
  | absent
  | malformed
  | holds (value : JsValue)

/-- The value whose fields a script reads. It fails at a malformed text, and at the first field of `null`. -/
def JsonText.readable : JsonText → Option JsValue
  | holds value => if value.isNull then none else some value
  | _ => none

/-- A text that is sent, or `null`, as the column keeps it. -/
def JsonText.keeping : Option JsValue → JsonText
  | none => absent
  | some value => holds value

namespace JsValue

@[simp]
theorem readable_record (fields : List (String × Option JsValue)) :
    (JsonText.keeping (some (record fields))).readable = some (record fields) := rfl

section Conversion

variable {value : Option JsValue} {fallback : JsValue}

theorem orElse_of_filter {found : JsValue} (hfound : value.filter truthy = some found) :
    orElse value fallback = found := by
  unfold orElse
  rw [hfound]
  rfl

@[simp]
theorem truthy_orElse (hfallback : fallback.truthy) : (orElse value fallback).truthy := by
  unfold orElse
  cases hfound : value.filter truthy with
  | none => exact hfallback
  | some found => exact (Option.filter_eq_some_iff.mp hfound).2

theorem orElse_of_truthy {found : JsValue} (hfound : found.truthy) : orElse (some found) fallback = found :=
  orElse_of_filter (Option.filter_eq_some_iff.mpr ⟨rfl, hfound⟩)

theorem orElse_of_not_truthy (hvalue : ∀ found ∈ value, found.truthy = false) :
    orElse value fallback = fallback := by
  have hnone : value.filter truthy = none := by
    rw [Option.filter_eq_none_iff]
    intro found hfound htruthy
    rw [hvalue found hfound] at htruthy
    cases htruthy
  unfold orElse
  rw [hnone]
  rfl

/-- What was written with a fallback needs no other fallback where it is read. -/
theorem orElse_some_orElse {other : JsValue} (hfallback : fallback.truthy) :
    orElse (some (orElse value fallback)) other = orElse value fallback :=
  orElse_of_truthy (truthy_orElse hfallback)

theorem isNull_of_truthy {found : JsValue} (hfound : found.truthy) : found.isNull = false := by
  cases found with
  | null => cases hfound
  | _ => rfl

theorem coalesce_of_truthy {found other : JsValue} (hfound : found.truthy) :
    coalesce (some found) other = found := by
  unfold coalesce
  rw [Option.filter_some, isNull_of_truthy hfound]
  rfl

@[simp]
theorem textsOf_texts (items : List String) : textsOf (some (texts items)) = items := by
  have hfound : (items.map str).filterMap asText = items := by
    rw [List.filterMap_map]
    exact List.filterMap_some
  exact hfound

end Conversion

section Records

variable {key : String} {value : Option JsValue} {fields left right : List (String × Option JsValue)}

theorem get_record_of_notMem (hkey : key ∉ fields.map Prod.fst) : get (some (record fields)) key = none := by
  unfold record get
  rw [List.lookup_eq_none_iff]
  intro field hfield
  obtain ⟨source, hsource, hwritten⟩ := List.mem_filterMap.mp hfield
  obtain ⟨found, -, rfl⟩ := Option.map_eq_some_iff.mp hwritten
  rw [bne_iff_ne]
  intro heq
  exact hkey (heq ▸ List.mem_map_of_mem hsource)

theorem get_record_cons (hnodup : key ∉ fields.map Prod.fst) (wanted : String) :
    get (some (record ((key, value) :: fields))) wanted
      = if wanted = key then value else get (some (record fields)) wanted := by
  cases value with
  | none =>
      have hskipped : record ((key, none) :: fields) = record fields := rfl
      rw [hskipped]
      by_cases hwanted : wanted = key
      · rw [if_pos hwanted, hwanted, get_record_of_notMem hnodup]
      · rw [if_neg hwanted]
  | some found =>
      have hwritten : get (some (record ((key, some found) :: fields))) wanted
          = ((key, found) :: fields.filterMap fun field => field.2.map fun value => (field.1, value)).lookup
              wanted := rfl
      rw [hwritten, List.lookup_cons]
      by_cases hwanted : wanted = key
      · rw [if_pos hwanted, hwanted, beq_self_eq_true]
      · rw [if_neg hwanted, beq_false_of_ne hwanted]
        rfl

/-- The fields of a record that are defined are what a reader of its text finds. -/
theorem get_record (hnodup : (fields.map Prod.fst).Nodup) (key : String) :
    get (some (record fields)) key = (fields.lookup key).join := by
  induction fields with
  | nil => rfl
  | cons field fields ih =>
      obtain ⟨hfirst, hrest⟩ := List.nodup_cons.mp hnodup
      rw [get_record_cons hfirst, List.lookup_cons]
      by_cases hkey : key = field.1
      · rw [if_pos hkey, hkey, beq_self_eq_true]
        rfl
      · rw [if_neg hkey, beq_false_of_ne hkey]
        exact ih hrest

end Records

section Fields

variable {left right : Option JsValue}

@[simp]
theorem SameFields.refl (value : Option JsValue) : SameFields value value := fun _ => rfl

theorem SameFields.symm (hsame : SameFields left right) : SameFields right left :=
  fun path => (hsame path).symm

theorem SameFields.get (hsame : SameFields left right) (key : String) :
    SameFields (get left key) (get right key) := fun path => hsame (key :: path)

theorem SameFields.isSome_eq (hsame : SameFields left right) : left.isSome = right.isSome := by
  have hshape : left.map shape = right.map shape := hsame []
  rw [← Option.isSome_map (f := shape), hshape, Option.isSome_map]

/-- What is no object has the fields of itself only. -/
theorem eq_of_sameFields (hright : ∀ fields, right ≠ some (obj fields)) (hsame : SameFields left right) :
    left = right := by
  have hshape : left.map shape = right.map shape := hsame []
  cases left with
  | none =>
      cases right with
      | none => rfl
      | some value => cases hshape
  | some value =>
      cases right with
      | none => cases hshape
      | some other =>
          have hother : shape other = other := by
            cases other with
            | obj fields => exact absurd rfl (hright fields)
            | _ => rfl
          have heq : shape value = other := (Option.some.inj hshape).trans hother
          cases value with
          | obj fields => exact absurd (congrArg some heq.symm) (hright [])
          | _ => exact congrArg some heq

theorem sameFields_num_iff {value : ℚ} : SameFields left (some (num value)) ↔ left = some (num value) := by
  constructor
  · exact eq_of_sameFields fun _ heq => JsValue.noConfusion (Option.some.inj heq)
  · rintro rfl
    exact SameFields.refl _

theorem sameFields_none_iff : SameFields left none ↔ left = none := by
  constructor
  · exact eq_of_sameFields fun fields => Option.some_ne_none (obj fields) ∘ Eq.symm
  · rintro rfl
    exact SameFields.refl _

/-- Two records with the same keys have the same fields when they have them key by key. -/
theorem sameFields_record_iff {left right : List (String × Option JsValue)}
    (hkeys : left.map Prod.fst = right.map Prod.fst) (hnodup : (left.map Prod.fst).Nodup) :
    SameFields (some (record left)) (some (record right))
      ↔ List.Forall₂ (fun old new => SameFields old.2 new.2) left right := by
  induction left generalizing right with
  | nil =>
      obtain rfl : right = [] := List.map_eq_nil_iff.mp hkeys.symm
      exact iff_of_true (SameFields.refl _) List.Forall₂.nil
  | cons old left ih =>
      cases right with
      | nil => cases hkeys
      | cons new right =>
          obtain ⟨hkey, hrest⟩ := List.cons.inj hkeys
          obtain ⟨hfirst, hnodup⟩ := List.nodup_cons.mp hnodup
          have hold (wanted : String) : get (some (record (old :: left))) wanted
              = if wanted = old.1 then old.2 else get (some (record left)) wanted :=
            get_record_cons hfirst wanted
          have hnew (wanted : String) : get (some (record (new :: right))) wanted
              = if wanted = new.1 then new.2 else get (some (record right)) wanted :=
            get_record_cons (hkey ▸ hrest ▸ hfirst) wanted
          rw [List.forall₂_cons, ← ih hrest hnodup]
          constructor
          · intro hsame
            constructor
            · have hget := hsame.get old.1
              rwa [hold, hkey, hnew, if_pos rfl, if_pos rfl] at hget
            · intro path
              cases path with
              | nil => rfl
              | cons key path =>
                  by_cases hfound : key = old.1
                  · have hleft := get_record_of_notMem hfirst
                    have hright := get_record_of_notMem (hrest ▸ hfirst)
                    have hnone : along (get (some (record left)) key) path
                        = along (get (some (record right)) key) path := by
                      rw [hfound, hleft, hright]
                    exact hnone
                  · have hget := hsame.get key path
                    rwa [hold, hnew, if_neg hfound, if_neg (hkey ▸ hfound)] at hget
          · rintro ⟨hhead, htail⟩ path
            cases path with
            | nil => rfl
            | cons key path =>
                have hget : along (get (some (record (old :: left))) key) path
                    = along (get (some (record (new :: right))) key) path := by
                  rw [hold, hnew, hkey]
                  by_cases hfound : key = new.1
                  · rw [if_pos hfound, if_pos hfound]
                    exact hhead path
                  · rw [if_neg hfound, if_neg hfound]
                    exact htail (key :: path)
                exact hget

theorem sameFields_record_singleton_iff {key : String} :
    SameFields (some (record [(key, left)])) (some (record [(key, right)])) ↔ SameFields left right := by
  have hkeys : [(key, left)].map Prod.fst = [(key, right)].map Prod.fst := rfl
  rw [sameFields_record_iff hkeys (List.nodup_singleton key), List.forall₂_cons, List.forall₂_nil_left_iff]
  exact and_iff_left rfl

end Fields

section Rereading

variable {value : Option JsValue} {fallback number : ℚ}

theorem asNumber_eq_some_iff {found : JsValue} : found.asNumber = some number ↔ found = num number := by
  cases found with
  | num value => exact Option.some_inj.trans ⟨congrArg num, fun heq => JsValue.num.inj heq⟩
  | _ => exact iff_of_false (Option.some_ne_none number ∘ Eq.symm) (fun heq => JsValue.noConfusion heq)

theorem isNumber_iff : IsNumber value ↔ ∃ number, value = some (num number) := by
  unfold IsNumber
  rw [Option.isSome_iff_exists]
  constructor
  · rintro ⟨number, hnumber⟩
    obtain ⟨found, rfl, hfound⟩ := Option.bind_eq_some_iff.mp hnumber
    exact ⟨number, congrArg some (asNumber_eq_some_iff.mp hfound)⟩
  · rintro ⟨number, rfl⟩
    exact ⟨number, rfl⟩

theorem numeric_iff : Numeric value ↔ value = none ∨ IsNumber value := by
  cases value with
  | none => exact iff_of_true (fun _ hfound => absurd hfound (Option.not_mem_none _)) (Or.inl rfl)
  | some found =>
      constructor
      · intro hnumeric
        exact Or.inr (hnumeric found rfl)
      · rintro (hnone | hnumber) other hother
        · cases hnone
        · rw [← Option.some.inj hother]
          exact hnumber

@[simp]
theorem numberOr_num : numberOr (some (num number)) fallback = number := rfl

theorem numberOr_of_not_isNumber (hvalue : ¬IsNumber value) : numberOr value fallback = fallback := by
  unfold IsNumber at hvalue
  rw [Option.not_isSome_iff_eq_none] at hvalue
  unfold numberOr
  rw [hvalue]
  rfl

variable {P : JsValue → Bool}

/-- A number that is written when it passes a test which the fallback passes too is written back if it was
written as a number: the fallback would be written for anything else. -/
theorem sameFields_reread_of_written (hfallback : P (num fallback)) :
    SameFields (value.filter P) ((some (num (numberOr (value.filter P) fallback))).filter P)
      ↔ IsNumber (value.filter P) := by
  by_cases hnumber : IsNumber (value.filter P)
  · obtain ⟨number, hwritten⟩ := isNumber_iff.mp hnumber
    have hpass : P (num number) := (Option.filter_eq_some_iff.mp hwritten).2
    rw [hwritten, numberOr_num, Option.filter_some, if_pos hpass]
    exact iff_of_true (SameFields.refl _) rfl
  · rw [numberOr_of_not_isNumber hnumber, Option.filter_some, if_pos hfallback, sameFields_num_iff]
    refine iff_of_false ?_ hnumber
    intro hwritten
    exact hnumber (isNumber_iff.mpr ⟨fallback, hwritten⟩)

/-- Where the fallback does not pass the test, nothing is written back for nothing. -/
theorem sameFields_reread_of_omitted (hfallback : P (num fallback) = false) :
    SameFields (value.filter P) ((some (num (numberOr (value.filter P) fallback))).filter P)
      ↔ Numeric (value.filter P) := by
  rw [numeric_iff]
  by_cases hnumber : IsNumber (value.filter P)
  · obtain ⟨number, hwritten⟩ := isNumber_iff.mp hnumber
    have hpass : P (num number) := (Option.filter_eq_some_iff.mp hwritten).2
    rw [hwritten, numberOr_num, Option.filter_some, if_pos hpass]
    exact iff_of_true (SameFields.refl _) (Or.inr rfl)
  · have homitted : (some (num fallback)).filter P = none := by
      rw [Option.filter_some, hfallback]
      rfl
    rw [numberOr_of_not_isNumber hnumber, homitted, sameFields_none_iff]
    exact (or_iff_left hnumber).symm

/-- A field that is written back whenever it was written, as the number that was read. -/
theorem sameFields_reread_of_defined :
    SameFields value (if value.isSome then some (num (numberOr value fallback)) else none) ↔ Numeric value := by
  cases value with
  | none => exact iff_of_true (SameFields.refl _) (numeric_iff.mpr (Or.inl rfl))
  | some found =>
      rw [if_pos (Option.isSome_some), sameFields_num_iff, numeric_iff, isNumber_iff]
      constructor
      · intro hfound
        exact Or.inr ⟨_, hfound⟩
      · rintro (hnone | ⟨number, hnumber⟩)
        · cases hnone
        · rw [hnumber, numberOr_num]

end Rereading

end JsValue
