import Mathlib

/-!
# Text before a marker

A value is written down with a marker and more behind it, and read back as what stands before the first
marker. The marker is found where it was written unless it also begins further to the left, inside the value
or partly inside it.
-/

namespace FirstMarker

variable {α : Type} [DecidableEq α] {marker value rest : List α}

/-- What stands before the first marker, if there is one. -/
def before (marker text : List α) : Option (List α) := (text.dropInfix? marker).map (·.1)

theorem before_eq_some_iff {text first : List α} :
    before marker text = some first ↔
      (∃ rest, text = first ++ marker ++ rest) ∧
        ∀ first' rest', text = first' ++ marker ++ rest' → first.length ≤ first'.length := by
  unfold before
  constructor
  · intro h
    obtain ⟨⟨first', rest⟩, hdrop, heq⟩ := Option.map_eq_some_iff.mp h
    have hfirst : first' = first := heq
    subst hfirst
    obtain ⟨⟨marker', htext, hmarker⟩, hleast⟩ := List.dropInfix?_eq_some_iff.mp hdrop
    rw [eq_of_beq hmarker] at htext
    refine ⟨⟨rest, htext⟩, ?_⟩
    intro first'' rest'' htext''
    exact hleast first'' marker rest'' htext'' (beq_self_eq_true marker)
  · rintro ⟨⟨rest, htext⟩, hleast⟩
    have hdrop : text.dropInfix? marker = some (first, rest) := by
      refine List.dropInfix?_eq_some_iff.mpr ⟨⟨marker, htext, beq_self_eq_true marker⟩, ?_⟩
      intro first' marker' rest' htext' hmarker'
      rw [eq_of_beq hmarker'] at htext'
      exact hleast first' rest' htext'
    rw [hdrop]
    rfl

/-- A value is read back exactly if no marker begins in it, be it that it ends in the marker behind. -/
theorem before_append_iff (hmarker : marker ≠ []) :
    before marker (value ++ marker ++ rest) = some value ↔ ¬ marker <:+: value ++ marker.dropLast := by
  have hlength : marker.dropLast.length + 1 = marker.length := by
    have hpos : 0 < marker.length := List.length_pos_iff.mpr hmarker
    rw [List.length_dropLast]
    omega
  have hsplit : value ++ marker ++ rest
      = value ++ marker.dropLast ++ (marker.getLast hmarker :: rest) := by
    conv_lhs => rw [← List.dropLast_concat_getLast hmarker]
    simp
  rw [before_eq_some_iff]
  constructor
  · rintro ⟨-, hleast⟩ ⟨first, last, hinfix⟩
    have hshort : value.length ≤ first.length := by
      refine hleast first (last ++ marker.getLast hmarker :: rest) ?_
      rw [hsplit, ← hinfix]
      simp
    have hlengths := congrArg List.length hinfix
    simp only [List.length_append] at hlengths
    omega
  · intro hnone
    refine ⟨⟨rest, rfl⟩, ?_⟩
    intro first rest' htext
    by_contra hshort
    apply hnone
    have hprefix : first ++ marker <+: value ++ marker.dropLast := by
      have hwritten : first ++ marker <+: value ++ marker ++ rest := ⟨rest', htext.symm⟩
      have hvalue : value ++ marker.dropLast <+: value ++ marker ++ rest := ⟨_, hsplit.symm⟩
      refine List.prefix_of_prefix_length_le hwritten hvalue ?_
      simp only [List.length_append]
      omega
    exact (List.infix_append_right).trans hprefix.isInfix

omit [DecidableEq α] in
/-- Where a marker may begin: inside the value, or so that the rest of it begins the marker again. -/
theorem infix_append_dropLast_iff (hmarker : marker ≠ []) :
    marker <:+: value ++ marker.dropLast ↔
      marker <:+: value ∨ ∃ k < marker.length, 0 < k ∧ marker.drop k <+: marker ∧ marker.take k <:+ value := by
  have hlength : marker.dropLast.length + 1 = marker.length := by
    have hpos : 0 < marker.length := List.length_pos_iff.mpr hmarker
    rw [List.length_dropLast]
    omega
  rw [List.infix_append_iff]
  constructor
  · rintro (hvalue | hself | ⟨left, right, hsplit, hleft, hright⟩)
    · exact .inl hvalue
    · have hle := hself.length_le
      omega
    · by_cases hnil : right = []
      · left
        rw [hsplit, hnil, List.append_nil]
        exact hleft.isInfix
      · right
        have hpos : 0 < right.length := List.length_pos_iff.mpr hnil
        have hle := hright.length_le
        have hsum : left.length + right.length = marker.length := by
          rw [hsplit, List.length_append]
        have htake : marker.take left.length = left := by
          rw [hsplit, List.take_left]
        have hdrop : marker.drop left.length = right := by
          rw [hsplit, List.drop_left]
        refine ⟨left.length, by omega, by omega, ?_, ?_⟩
        · rw [hdrop]
          exact hright.trans (List.dropLast_prefix marker)
        · rw [htake]
          exact hleft
  · rintro (hvalue | ⟨k, hlt, hpos, hdrop, htake⟩)
    · exact .inl hvalue
    · refine .inr (.inr ⟨marker.take k, marker.drop k, (List.take_append_drop k marker).symm, htake, ?_⟩)
      refine List.prefix_of_prefix_length_le hdrop (List.dropLast_prefix marker) ?_
      rw [List.length_drop]
      omega

end FirstMarker
