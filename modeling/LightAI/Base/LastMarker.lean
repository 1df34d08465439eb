import LightAI.Base.Text

/-!
# Text after the last marker

What is read is what follows the last marker of a text. A marker is the last one, whatever stands before it,
if its first character occurs neither in the rest of the marker nor behind it.
-/

namespace LastMarker

variable {α : Type} {p : List α → Bool} {text suffix : List α}

theorem find?_tails_cons (first : α) (text : List α) :
    (first :: text).tails.reverse.find? p
      = (text.tails.reverse.find? p).or (if p (first :: text) then some (first :: text) else none) := by
  rw [List.tails, List.reverse_cons, List.find?_append, List.find?_singleton]

theorem suffix_of_find?_tails (hfound : text.tails.reverse.find? p = some suffix) : suffix <:+ text := by
  have hmem := List.mem_of_find?_eq_some hfound
  rwa [List.mem_reverse, List.mem_tails] at hmem

theorem not_of_find?_tails_none (hnone : text.tails.reverse.find? p = none) (hsuffix : suffix <:+ text) :
    p suffix ≠ true := by
  apply List.find?_eq_none.mp hnone
  rwa [List.mem_reverse, List.mem_tails]

/-- From the right, no suffix of a kind is found before a shorter one. -/
theorem length_le_of_find?_tails (hfound : text.tails.reverse.find? p = some suffix) {other : List α}
    (hother : other <:+ text) (hp : p other = true) : suffix.length ≤ other.length := by
  induction text with
  | nil =>
      rw [List.suffix_nil.mp (suffix_of_find?_tails hfound)]
      exact Nat.zero_le _
  | cons first text ih =>
      obtain rfl | hlater := List.suffix_cons_iff.mp hother
      · exact (suffix_of_find?_tails hfound).length_le
      · rw [find?_tails_cons] at hfound
        cases htext : text.tails.reverse.find? p with
        | none => exact absurd hp (not_of_find?_tails_none htext hlater)
        | some found =>
            rw [htext, Option.some_or] at hfound
            obtain rfl := Option.some.inj hfound
            exact ih htext hlater

/-- From the right, the shortest suffix of a kind is found first. -/
theorem find?_tails_eq_some_iff :
    text.tails.reverse.find? p = some suffix ↔
      p suffix = true ∧ suffix <:+ text ∧
        ∀ other, other <:+ text → p other = true → suffix.length ≤ other.length := by
  constructor
  · intro hfound
    refine ⟨List.find?_some hfound, suffix_of_find?_tails hfound, ?_⟩
    exact fun other hother hp => length_le_of_find?_tails hfound hother hp
  · rintro ⟨hp, hsuffix, hleast⟩
    cases hfound : text.tails.reverse.find? p with
    | none => exact absurd hp (not_of_find?_tails_none hfound hsuffix)
    | some found =>
        have hle := length_le_of_find?_tails hfound hsuffix hp
        have hge := hleast found (suffix_of_find?_tails hfound) (List.find?_some hfound)
        have hsame := List.suffix_of_suffix_length_le (suffix_of_find?_tails hfound) hsuffix hle
        rw [hsame.eq_of_length (by omega)]

end LastMarker

namespace Text

/-- What stands after the last separator. -/
theorem afterLast_eq_some_iff {separator value rest : String} :
    afterLast separator value = some rest ↔
      (∃ before, value = before ++ separator ++ rest) ∧
        ∀ before' rest', value = before' ++ separator ++ rest' → rest.length ≤ rest'.length := by
  have hstarting : ∀ tail : List Char, separator.toList.isPrefixOf tail = true ↔
      tail = separator.toList ++ tail.drop separator.length := by
    intro tail
    rw [List.isPrefixOf_iff_prefix, List.prefix_iff_eq_append, String.length_toList, eq_comm]
  unfold afterLast
  rw [Option.map_eq_some_iff]
  constructor
  · rintro ⟨tail, hfound, rfl⟩
    obtain ⟨hstarts, ⟨before, hvalue⟩, hleast⟩ := LastMarker.find?_tails_eq_some_iff.mp hfound
    have htail := (hstarting tail).mp hstarts
    refine ⟨⟨String.ofList before, ?_⟩, ?_⟩
    · rw [← String.toList_inj, String.toList_append, String.toList_append, String.toList_ofList,
        String.toList_ofList, List.append_assoc, ← htail, hvalue]
    · intro before' rest' hother
      have hsuffix : separator.toList ++ rest'.toList <:+ value.toList := by
        rw [hother, String.toList_append, String.toList_append, List.append_assoc]
        exact List.suffix_append _ _
      have hstarts' : separator.toList.isPrefixOf (separator.toList ++ rest'.toList) = true :=
        List.isPrefixOf_iff_prefix.mpr (List.prefix_append _ _)
      have hlength := hleast _ hsuffix hstarts'
      rw [htail, List.length_append, List.length_append, String.length_toList (s := rest')] at hlength
      rw [String.length_ofList]
      omega
  · rintro ⟨⟨before, rfl⟩, hleast⟩
    refine ⟨separator.toList ++ rest.toList, ?_, ?_⟩
    · apply LastMarker.find?_tails_eq_some_iff.mpr
      refine ⟨List.isPrefixOf_iff_prefix.mpr (List.prefix_append _ _), ?_, ?_⟩
      · rw [String.toList_append, String.toList_append, List.append_assoc]
        exact List.suffix_append _ _
      · rintro other ⟨before', hvalue⟩ hstarts
        have hother := (hstarting other).mp hstarts
        have hdecomposed : before ++ separator ++ rest
            = String.ofList before' ++ separator ++ String.ofList (other.drop separator.length) := by
          rw [← String.toList_inj, hvalue.symm, String.toList_append, String.toList_append,
            String.toList_ofList, String.toList_ofList, List.append_assoc, ← hother]
        have hlength := hleast _ _ hdecomposed
        rw [← String.length_toList, ← String.length_toList, String.toList_ofList] at hlength
        rw [hother, List.length_append, List.length_append]
        omega
    · rw [← String.length_toList, List.drop_left, String.ofList_toList]

/-- The separator that is written last is found, whatever stands before it. -/
theorem afterLast_append {separator rest : String} {first : Char} {others : List Char}
    (hseparator : separator.toList = first :: others) (hothers : first ∉ others)
    (hrest : first ∉ rest.toList) (before : String) :
    afterLast separator (before ++ separator ++ rest) = some rest := by
  apply afterLast_eq_some_iff.mpr
  refine ⟨⟨before, rfl⟩, ?_⟩
  intro before' rest' hvalue
  by_contra hshorter
  have hlists := congrArg String.toList hvalue
  simp only [String.toList_append, hseparator, List.append_assoc, List.cons_append] at hlists
  -- the first character of the other separator would stand behind that of this one
  have hbehind : first :: (others ++ rest'.toList) <:+ others ++ rest.toList := by
    have hother : first :: (others ++ rest'.toList) <:+ before.toList ++ first :: (others ++ rest.toList) :=
      ⟨before'.toList, hlists.symm⟩
    have hthis : others ++ rest.toList <:+ before.toList ++ first :: (others ++ rest.toList) :=
      ⟨before.toList ++ [first], by simp⟩
    apply List.suffix_of_suffix_length_le hother hthis
    rw [List.length_cons, List.length_append, List.length_append, String.length_toList, String.length_toList]
    omega
  have hmem : first ∈ others ++ rest.toList := hbehind.subset List.mem_cons_self
  obtain hmem | hmem := List.mem_append.mp hmem
  · exact hothers hmem
  · exact hrest hmem

end Text
