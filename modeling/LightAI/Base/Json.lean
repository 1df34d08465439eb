import Mathlib

/-!
# JSON values

A number is an integer or, when it is written with a fraction or an exponent, the text it is written
in: nothing here computes with floating point.
-/

inductive Json where
  | null
  | bool (value : Bool)
  | int (value : Int)
  | float (text : String)
  | str (value : String)
  | arr (items : List Json)
  | obj (fields : List (String × Json))

namespace Json

/-- The value of a key of an object. A key of any other value is absent. -/
def get? : Json → String → Option Json
  | obj fields, key => (fields.find? fun field => field.1 = key).map Prod.snd
  | _, _ => none

def asStr : Json → Option String
  | str value => some value
  | _ => none

def asBool : Json → Option Bool
  | bool value => some value
  | _ => none

/-- Only integers within the range of a signed 64-bit integer. -/
def asI64 : Json → Option Int
  | int value => if -(2 ^ 63) ≤ value ∧ value < 2 ^ 63 then some value else none
  | _ => none

/-- Only integers within the range of an unsigned 64-bit integer. -/
def asU64 : Json → Option Nat
  | int value => if 0 ≤ value ∧ value < 2 ^ 64 then some value.toNat else none
  | _ => none

def asArray : Json → Option (List Json)
  | arr items => some items
  | _ => none

def isObject : Json → Bool
  | obj _ => true
  | _ => false

/-- The text under a key, when there is one. -/
def getStr (value : Json) (key : String) : Option String := (value.get? key).bind asStr

def getI64 (value : Json) (key : String) : Option Int := (value.get? key).bind asI64

def getU64 (value : Json) (key : String) : Option Nat := (value.get? key).bind asU64

/-- An optional text: `null` when it is absent. -/
def ofOption : Option String → Json
  | some value => str value
  | none => null

/-- Sets a key of an object; on any other value there is no key to set. -/
def set : Json → String → Json → Json
  | obj fields, key, value => obj (fields.filter (fun field => field.1 ≠ key) ++ [(key, value)])
  | other, _, _ => other

@[simp]
theorem get?_obj_cons (key : String) (value : Json) (fields : List (String × Json)) (key' : String) :
    (obj ((key, value) :: fields)).get? key'
      = if key = key' then some value else (obj fields).get? key' := by
  by_cases h : key = key' <;> simp [get?, h]

@[simp]
theorem get?_obj_nil (key : String) : (obj []).get? key = none := rfl

theorem get?_set_of_ne {value : Json} {key key' : String} (new : Json) (hne : key ≠ key') :
    (value.set key new).get? key' = value.get? key' := by
  cases value with
  | obj fields =>
      simp only [set, get?, List.find?_append]
      have hfind : (fields.filter fun field => field.1 ≠ key).find? (fun field => field.1 = key')
          = fields.find? fun field => field.1 = key' := by
        rw [List.find?_filter]
        congr 1
        funext field
        by_cases h : field.1 = key'
        · simp [h, Ne.symm hne]
        · simp [h]
      rw [hfind]
      simp [hne]
  | _ => rfl

@[simp]
theorem get?_set_self (fields : List (String × Json)) (key : String) (new : Json) :
    ((obj fields).set key new).get? key = some new := by
  have habsent : (fields.filter fun field => field.1 ≠ key).find? (fun field => field.1 = key)
      = none := by
    rw [List.find?_eq_none]
    intro field hfield
    simpa using (List.mem_filter.mp hfield).2
  simp only [set, get?, List.find?_append, habsent]
  simp

theorem getStr_set_of_ne {value : Json} {key key' : String} (new : Json) (hne : key ≠ key') :
    (value.set key new).getStr key' = value.getStr key' := by
  simp [getStr, get?_set_of_ne new hne]

end Json
