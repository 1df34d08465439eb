import LightAI.Base.Text

/-!
# Parts of texts

A part of a text that does not hold some character lies on one side of every occurrence of it. In particular
a part that holds no line end lies within a line.
-/

namespace Text

/-- `lines.join("\n")`. -/
def join (lines : List String) : String := String.ofList (['\n'].intercalate (lines.map String.toList))

@[simp]
theorem toList_join (lines : List String) :
    (join lines).toList = ['\n'].intercalate (lines.map String.toList) := String.toList_ofList

@[simp]
theorem toList_toAsciiLowercase (value : String) :
    (toAsciiLowercase value).toList = value.toList.map Char.toLower := String.toList_map

theorem contains_iff {value part : String} : contains value part = true ↔ part.toList <:+: value.toList := by
  unfold contains
  rw [List.any_eq_true]
  constructor
  · rintro ⟨tail, htail, hprefix⟩
    exact (List.isPrefixOf_iff_prefix.mp hprefix).isInfix.trans ((List.mem_tails _ _).mp htail).isInfix
  · intro hinfix
    obtain ⟨tail, hprefix, hsuffix⟩ := List.infix_iff_prefix_suffix.mp hinfix
    exact ⟨tail, (List.mem_tails _ _).mpr hsuffix, List.isPrefixOf_iff_prefix.mpr hprefix⟩

section Separated

variable {α : Type} {part left right : List α} {c : α}

theorem infix_append_cons (hc : c ∉ part) (hpart : part <:+: left ++ c :: right) :
    part <:+: left ∨ part <:+: right := by
  obtain ⟨before, after, heq⟩ := hpart
  rw [List.append_assoc, List.append_eq_append_iff] at heq
  obtain ⟨rest, hleft, hrest⟩ | ⟨rest, hbefore, hrest⟩ := heq
  · -- the part begins on the left of the separator
    rw [List.append_eq_append_iff] at hrest
    obtain ⟨inner, hinner, -⟩ | ⟨inner, hinner, hafter⟩ := hrest
    · left
      exact ⟨before, inner, by rw [hleft, hinner, List.append_assoc]⟩
    · cases inner with
      | nil =>
          left
          exact ⟨before, [], by rw [hleft, hinner, List.append_nil, List.append_nil]⟩
      | cons first inner =>
          have hfirst : first = c := (List.cons.inj hafter).1.symm
          exact absurd (hinner ▸ hfirst ▸ List.mem_append_right rest List.mem_cons_self) hc
  · cases rest with
    | nil =>
        cases part with
        | nil => exact Or.inl List.nil_infix
        | cons first part =>
            have hfirst : c = first := (List.cons.inj hrest).1
            exact absurd (hfirst ▸ List.mem_cons_self) hc
    | cons first rest =>
        right
        exact ⟨rest, after, by rw [List.append_assoc]; exact (List.cons.inj hrest).2.symm⟩

theorem infix_intercalate {c : α} {part : List α} {pieces : List (List α)} (hc : c ∉ part)
    (hne : part ≠ []) (hpart : part <:+: [c].intercalate pieces) : ∃ piece ∈ pieces, part <:+: piece := by
  induction pieces with
  | nil => exact absurd (List.infix_nil.mp hpart) hne
  | cons piece pieces ih =>
      cases pieces with
      | nil =>
          rw [List.intercalate_singleton] at hpart
          exact ⟨piece, List.mem_cons_self, hpart⟩
      | cons next pieces =>
          rw [List.intercalate_cons_cons, List.append_assoc] at hpart
          obtain hhere | hlater := infix_append_cons hc hpart
          · exact ⟨piece, List.mem_cons_self, hhere⟩
          · obtain ⟨found, hfound, hinfix⟩ := ih hlater
            exact ⟨found, List.mem_cons_of_mem _ hfound, hinfix⟩

theorem map_intercalate {β : Type} (f : α → β) (c : α) (pieces : List (List α)) :
    ([c].intercalate pieces).map f = [f c].intercalate (pieces.map (List.map f)) := by
  induction pieces with
  | nil => rfl
  | cons piece pieces ih =>
      cases pieces with
      | nil => rw [List.intercalate_singleton, List.map_singleton, List.intercalate_singleton]
      | cons next pieces =>
          calc ([c].intercalate (piece :: next :: pieces)).map f
              = piece.map f ++ [f c] ++ ([c].intercalate (next :: pieces)).map f := by
                rw [List.intercalate_cons_cons, List.map_append, List.map_append, List.map_singleton]
            _ = piece.map f ++ [f c] ++ [f c].intercalate ((next :: pieces).map (List.map f)) := by rw [ih]
            _ = [f c].intercalate ((piece :: next :: pieces).map (List.map f)) :=
                List.intercalate_cons_cons.symm

theorem infix_of_mem_intercalate {c : α} {piece : List α} {pieces : List (List α)} (hpiece : piece ∈ pieces) :
    piece <:+: [c].intercalate pieces := by
  induction pieces with
  | nil => cases hpiece
  | cons first pieces ih =>
      cases pieces with
      | nil =>
          rw [List.mem_singleton.mp hpiece, List.intercalate_singleton]
      | cons next pieces =>
          rw [List.intercalate_cons_cons, List.append_assoc]
          obtain rfl | hlater := List.mem_cons.mp hpiece
          · exact (List.prefix_append _ _).isInfix
          · exact (ih hlater).trans ((List.suffix_append _ _).trans (List.suffix_append _ _)).isInfix

end Separated

/-- A line of a text is a part of it. -/
theorem infix_of_mem_lines {value line : String} (hline : line ∈ lines value) :
    line.toList <:+: value.toList := by
  have hpieces : ∀ piece ∈ value.toList.splitOn '\n', piece <:+: value.toList := by
    intro piece hpiece
    have hinfix := infix_of_mem_intercalate (c := '\n') hpiece
    rwa [List.intercalate_splitOn] at hinfix
  unfold lines at hline
  simp only [List.mem_map, List.mem_append, Option.mem_toList] at hline
  obtain ⟨chars, ⟨piece, hpiece, hstripped⟩ | hlast, rfl⟩ := hline
  · rw [String.toList_ofList]
    have hwhole := hpieces piece (List.mem_of_mem_dropLast hpiece)
    by_cases hreturn : piece.getLast? = some '\r'
    · rw [if_pos hreturn] at hstripped
      rw [← hstripped]
      exact (List.dropLast_prefix piece).isInfix.trans hwhole
    · rw [if_neg hreturn] at hstripped
      rw [← hstripped]
      exact hwhole
  · rw [String.toList_ofList]
    obtain ⟨hlast, -⟩ := Option.filter_eq_some_iff.mp hlast
    exact hpieces chars (List.mem_of_getLast? hlast)

end Text
