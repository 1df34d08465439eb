import Mathlib

/-!
# The first element of each key

A loop over a list that remembers the keys it has seen keeps the first element of each key, in the order
of the list.
-/

namespace Keyed

variable {α κ : Type} [DecidableEq κ] {key : α → κ}

/-- The elements before which no element has the same key. -/
def firstOfEach (key : α → κ) : List α → List α
  | [] => []
  | first :: rest => first :: (firstOfEach key rest).filter fun later => key later ≠ key first

theorem mem_of_mem_firstOfEach {element : α} {elements : List α}
    (hmem : element ∈ firstOfEach key elements) : element ∈ elements := by
  induction elements with
  | nil => exact hmem
  | cons first rest ih =>
      rw [firstOfEach, List.mem_cons] at hmem
      obtain rfl | hlater := hmem
      · exact List.mem_cons_self
      · exact List.mem_cons_of_mem _ (ih (List.mem_of_mem_filter hlater))

/-- The first of a key is what a search for the key finds. -/
theorem find?_firstOfEach (key : α → κ) (elements : List α) (k : κ) :
    (firstOfEach key elements).find? (fun element => key element = k)
      = elements.find? fun element => key element = k := by
  induction elements with
  | nil => rfl
  | cons first rest ih =>
      by_cases hfirst : key first = k
      · simp [firstOfEach, hfirst]
      · have hother : (fun element => decide (decide (key element ≠ key first) = true ∧
            decide (key element = k) = true)) = fun element => decide (key element = k) := by
          funext element
          by_cases helement : key element = k
          · simp [helement, Ne.symm hfirst]
          · simp [helement]
        rw [firstOfEach, List.find?_cons_of_neg (by simpa using hfirst),
          List.find?_cons_of_neg (by simpa using hfirst), List.find?_filter, hother, ih]

theorem mem_keys_firstOfEach {elements : List α} {k : κ} :
    k ∈ (firstOfEach key elements).map key ↔ k ∈ elements.map key := by
  have hfind := find?_firstOfEach key elements k
  have hkey : ∀ elements : List α,
      k ∈ elements.map key ↔ (elements.find? fun element => key element = k).isSome = true := by
    intro elements
    rw [List.find?_isSome, List.mem_map]
    simp
  rw [hkey, hkey, hfind]

theorem nodup_keys_firstOfEach (elements : List α) : ((firstOfEach key elements).map key).Nodup := by
  induction elements with
  | nil => exact List.nodup_nil
  | cons first rest ih =>
      rw [firstOfEach, List.map_cons, List.nodup_cons]
      constructor
      · intro hmem
        obtain ⟨later, hlater, hsame⟩ := List.mem_map.mp hmem
        have hother := (List.mem_filter.mp hlater).2
        rw [hsame] at hother
        simp at hother
      · exact ih.sublist (List.filter_sublist.map key)

/-- With no key twice, an element is what a search for its key finds. -/
theorem find?_of_nodup_keys {elements : List α} (hnodup : (elements.map key).Nodup) {element : α}
    (hmem : element ∈ elements) : elements.find? (fun other => key other = key element) = some element := by
  obtain ⟨found, hfound⟩ : ∃ found, elements.find? (fun other => key other = key element) = some found :=
    Option.isSome_iff_exists.mp (List.find?_isSome.mpr ⟨element, hmem, by simp⟩)
  have hkey : key found = key element := by simpa using List.find?_some hfound
  rw [hfound, List.inj_on_of_nodup_map hnodup (List.mem_of_find?_eq_some hfound) hmem hkey]

/-- One more element counts unless its key has come before. -/
theorem firstOfEach_concat (key : α → κ) (elements : List α) (last : α) :
    firstOfEach key (elements ++ [last])
      = firstOfEach key elements ++ if key last ∈ elements.map key then [] else [last] := by
  induction elements with
  | nil => rfl
  | cons first rest ih =>
      rw [List.cons_append, firstOfEach, ih, firstOfEach, List.filter_append, List.cons_append]
      congr 2
      by_cases hrest : key last ∈ rest.map key
      · have hmem : key last ∈ (first :: rest).map key := List.mem_cons_of_mem _ hrest
        rw [if_pos hrest, if_pos hmem]
        rfl
      · rw [if_neg hrest]
        by_cases hfirst : key last = key first
        · have hmem : key last ∈ (first :: rest).map key := hfirst ▸ List.mem_cons_self
          rw [if_pos hmem]
          simp [hfirst]
        · have hnot : key last ∉ (first :: rest).map key := by
            rw [List.map_cons, List.mem_cons]
            exact not_or.mpr ⟨hfirst, hrest⟩
          rw [if_neg hnot]
          simp [hfirst]

/-! ### Elements without a value -/

section Valued

variable {β : Type} {valueKey : β → κ}

/-- The first element of the key has a value. -/
def FirstHasValue (pairs : List (κ × Option β)) (k : κ) : Prop :=
  ∃ value, pairs.find? (fun pair => pair.1 = k) = some (k, some value)

instance (pairs : List (κ × Option β)) (k : κ) : Decidable (FirstHasValue pairs k) :=
  match h : pairs.find? (fun pair => pair.1 = k) with
  | some (k', some value) =>
      have hk : k' = k := by simpa using List.find?_some h
      isTrue ⟨value, by rw [h, hk]⟩
  | some (_, none) => isFalse fun ⟨_, hvalue⟩ => by simp [h] at hvalue
  | none => isFalse fun ⟨_, hvalue⟩ => by simp [h] at hvalue

theorem firstHasValue_cons_of_ne {pair : κ × Option β} {pairs : List (κ × Option β)} {k : κ}
    (hne : pair.1 ≠ k) : FirstHasValue (pair :: pairs) k ↔ FirstHasValue pairs k := by
  unfold FirstHasValue
  rw [List.find?_cons_of_neg (by simpa using hne)]

/-- To take the values of the first elements leaves out the keys whose first element has none. -/
theorem filterMap_firstOfEach {pairs : List (κ × Option β)}
    (hkeys : ∀ k value, (k, some value) ∈ pairs → valueKey value = k) :
    (firstOfEach Prod.fst pairs).filterMap Prod.snd
      = (firstOfEach valueKey (pairs.filterMap Prod.snd)).filter fun value =>
          FirstHasValue pairs (valueKey value) := by
  induction pairs with
  | nil => rfl
  | cons pair rest ih =>
      obtain ⟨k, value⟩ := pair
      have hrest : ∀ k value, (k, some value) ∈ rest → valueKey value = k :=
        fun k value hmem => hkeys k value (List.mem_cons_of_mem _ hmem)
      have hlater : ((firstOfEach Prod.fst rest).filter fun later => later.1 ≠ k).filterMap Prod.snd
          = ((firstOfEach Prod.fst rest).filterMap Prod.snd).filter fun later => valueKey later ≠ k := by
        rw [List.filterMap_filter, List.filter_filterMap]
        apply List.filterMap_congr
        intro later hmem
        obtain ⟨k', value'⟩ := later
        cases value' with
        | none => simp
        | some value' =>
            have hkey := hrest k' value' (mem_of_mem_firstOfEach hmem)
            simp only [Option.filter, hkey]
      have hsplit : ∀ later ∈ firstOfEach valueKey (rest.filterMap Prod.snd), valueKey later ≠ k →
          (FirstHasValue ((k, value) :: rest) (valueKey later)
            ↔ FirstHasValue rest (valueKey later)) :=
        fun later _ hne => firstHasValue_cons_of_ne (Ne.symm hne)
      cases value with
      | none =>
          have hhere : ¬ FirstHasValue ((k, none) :: rest) k := by
            rintro ⟨value, hvalue⟩
            simp at hvalue
          rw [firstOfEach, List.filterMap_cons_none rfl, hlater, ih hrest, List.filter_filter,
            List.filterMap_cons_none rfl]
          apply List.filter_congr
          intro later hmem
          by_cases hk : valueKey later = k
          · simp [hk, hhere]
          · simp [hk, hsplit later hmem hk]
      | some value =>
          have hkey : valueKey value = k := hkeys k value List.mem_cons_self
          have hhere : FirstHasValue ((k, some value) :: rest) (valueKey value) :=
            ⟨value, by simp [hkey]⟩
          have htake : ∀ pairs : List (κ × Option β),
              ((k, some value) :: pairs).filterMap Prod.snd = value :: pairs.filterMap Prod.snd :=
            fun _ => rfl
          rw [firstOfEach, htake, hlater, ih hrest, List.filter_filter, htake, firstOfEach,
            List.filter_cons_of_pos (by simpa using hhere), List.filter_filter]
          congr 1
          apply List.filter_congr
          intro later hmem
          by_cases hk : valueKey later = k
          · simp [hk, hkey]
          · simp [hk, hkey, hsplit later hmem hk]

/-- To take the values of the first elements is to take the first values exactly if no first element
lacks a value that a later one has. -/
theorem filterMap_firstOfEach_eq_iff {pairs : List (κ × Option β)}
    (hkeys : ∀ k value, (k, some value) ∈ pairs → valueKey value = k) :
    (firstOfEach Prod.fst pairs).filterMap Prod.snd
        = firstOfEach valueKey (pairs.filterMap Prod.snd) ↔
      ∀ k value, (k, some value) ∈ pairs → FirstHasValue pairs k := by
  rw [filterMap_firstOfEach hkeys, List.filter_eq_self]
  simp only [decide_eq_true_eq]
  constructor
  · intro h k value hmem
    have hvalue : value ∈ pairs.filterMap Prod.snd := List.mem_filterMap.mpr ⟨(k, some value), hmem, rfl⟩
    have hkey : valueKey value ∈ (firstOfEach valueKey (pairs.filterMap Prod.snd)).map valueKey :=
      mem_keys_firstOfEach.mpr (List.mem_map_of_mem hvalue)
    obtain ⟨first, hfirst, hsame⟩ := List.mem_map.mp hkey
    rw [← hkeys k value hmem, ← hsame]
    exact h first hfirst
  · intro h value hmem
    obtain ⟨pair, hpair, hvalue⟩ := List.mem_filterMap.mp (mem_of_mem_firstOfEach hmem)
    obtain ⟨k, stored⟩ := pair
    obtain rfl : stored = some value := hvalue
    rw [hkeys k value hpair]
    exact h k value hpair

end Valued

end Keyed
