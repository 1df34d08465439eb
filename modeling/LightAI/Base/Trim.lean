import LightAI.Base.Text

/-!
# Trimming

What is cut off on either side is whitespace, and what is left begins and ends with something else.
-/

/-- What is left when `p` is cut off on either side begins with something else. -/
theorem dropWhile_cutAround {α : Type} (p : α → Bool) (l : List α) :
    ((l.dropWhile p).rdropWhile p).dropWhile p = (l.dropWhile p).rdropWhile p := by
  rw [List.dropWhile_eq_self_iff]
  intro hpos
  have hprefix := List.rdropWhile_prefix p (l.dropWhile p)
  have hne : l.dropWhile p ≠ [] := by
    intro hnil
    rw [hnil] at hpos
    exact absurd hpos (Nat.lt_irrefl 0)
  have hfirst : ((l.dropWhile p).rdropWhile p).get ⟨0, hpos⟩ = (l.dropWhile p).head hne := by
    rw [List.head_eq_getElem]
    exact hprefix.getElem hpos
  intro hcut
  have hhead := List.head_dropWhile_not p hne
  rw [← hfirst] at hhead
  rw [List.get_eq_getElem, hcut] at hhead
  cases hhead

namespace Text

theorem toList_trim (value : String) :
    (trim value).toList = (value.toList.dropWhile isWhitespace).rdropWhile isWhitespace := by
  unfold trim
  rw [String.toList_ofList]
  rfl

/-- The text is what is left of it, with whitespace around. -/
theorem exists_around_trim (value : String) :
    ∃ before after : List Char, (∀ c ∈ before, isWhitespace c) ∧ (∀ c ∈ after, isWhitespace c) ∧
      value.toList = before ++ (trim value).toList ++ after := by
  have hbefore : ∀ c ∈ value.toList.takeWhile isWhitespace, isWhitespace c := by
    intro c hc
    exact List.mem_takeWhile_imp hc
  have hafter : ∀ c ∈ (value.toList.dropWhile isWhitespace).rtakeWhile isWhitespace,
      isWhitespace c := by
    intro c hc
    exact List.mem_rtakeWhile_imp hc
  refine ⟨_, _, hbefore, hafter, ?_⟩
  calc value.toList
      = value.toList.takeWhile isWhitespace ++ value.toList.dropWhile isWhitespace :=
        List.takeWhile_append_dropWhile.symm
    _ = value.toList.takeWhile isWhitespace
          ++ ((trim value).toList
            ++ (value.toList.dropWhile isWhitespace).rtakeWhile isWhitespace) := by
        rw [toList_trim, List.rdropWhile_append_rtakeWhile]
    _ = _ := (List.append_assoc _ _ _).symm

theorem utf8ByteSize_trim_le (value : String) :
    (trim value).utf8ByteSize ≤ value.utf8ByteSize := by
  obtain ⟨before, after, -, -, haround⟩ := exists_around_trim value
  have hvalue : value = String.ofList before ++ trim value ++ String.ofList after := by
    rw [← String.toList_inj, haround]
    simp
  have hsize : value.utf8ByteSize = (String.ofList before).utf8ByteSize
      + (trim value).utf8ByteSize + (String.ofList after).utf8ByteSize := by
    calc value.utf8ByteSize
        = (String.ofList before ++ trim value ++ String.ofList after).utf8ByteSize :=
          congrArg String.utf8ByteSize hvalue
      _ = _ := by rw [String.utf8ByteSize_append, String.utf8ByteSize_append]
  omega

@[simp]
theorem isBlank_trim (value : String) : isBlank (trim value) = isBlank value := by
  obtain ⟨before, after, hbefore, hafter, haround⟩ := exists_around_trim value
  have hall : value.toList.all isWhitespace = (trim value).toList.all isWhitespace := by
    rw [haround, List.all_append, List.all_append, List.all_eq_true.mpr hbefore,
      List.all_eq_true.mpr hafter, Bool.true_and, Bool.and_true]
  exact hall.symm

theorem trim_eq_empty {value : String} (hblank : isBlank value) : trim value = "" := by
  have hnil : value.toList.dropWhile isWhitespace = [] :=
    List.dropWhile_eq_nil_iff.mpr (List.all_eq_true.mp hblank)
  unfold trim
  rw [hnil]
  rfl

theorem trim_ne_empty {value : String} (hblank : isBlank value = false) : trim value ≠ "" := by
  intro hempty
  have htrim : isBlank (trim value) = true := by
    rw [hempty]
    rfl
  rw [isBlank_trim, hblank] at htrim
  cases htrim

/-- What is left begins with something else than whitespace. -/
theorem dropWhile_trim (value : String) :
    (trim value).toList.dropWhile isWhitespace = (trim value).toList := by
  rw [toList_trim]
  exact dropWhile_cutAround isWhitespace value.toList

@[simp]
theorem trim_trim (value : String) : trim (trim value) = trim value := by
  rw [← String.toList_inj, toList_trim (trim value), dropWhile_trim, toList_trim,
    List.rdropWhile_idempotent]

end Text
