import LightAI.Base.TextLines

/-!
# Redaction after a cut

Of some bytes the end is shown, redacted line by line. Every line of it is a line of the whole, except for the
first: that may be the rest of a line, and a marker in the part that was cut off is not seen any more.
-/

namespace Redactor

open Utf8 (Bytes newline lossyLines fromUtf8Lossy)

variable (redactor : Redactor)

/-- `text` shows the end of `content` from `start` on, line by line. Nothing of a line that is redacted as a
whole is in it, but for the notice. -/
def HidesLines (content : Bytes) (start : Nat) (text : String) : Prop :=
  ∀ index line shown, (lossyLines content)[(content.take start).count newline + index]? = some line →
    redactor.isSensitive line = true → (text.toList.splitOn '\n')[index]? = some shown →
      shown = redactor.notice.toList ∨ shown = []

/-- Of a line that is redacted as a whole the cut leaves nothing, or a rest that the notice replaces. -/
def CleanCut (content : Bytes) (start : Nat) : Prop :=
  ∀ line rest, (lossyLines content)[(content.take start).count newline]? = some line →
    redactor.isSensitive line = true → (lossyLines (content.drop start)).head? = some rest →
      rest = "" ∨ redactor.redactLine rest = redactor.notice

variable {redactor}

/-- All lines of the end but its first are lines of the whole. -/
theorem getElem?_lossyLines_of_tail (before : Bytes) {tail : Bytes} {index : Nat} {line : String}
    (hline : (lossyLines tail)[index + 1]? = some line) :
    (lossyLines (before ++ tail))[before.count newline + (index + 1)]? = some line := by
  by_cases hnewline : newline ∈ tail
  · obtain ⟨first, later, rfl, hfirst⟩ := List.eq_append_cons_of_mem hnewline
    have hfront : (lossyLines (first ++ [newline])).length = 1 := by
      rw [Utf8.length_lossyLines_ended, List.count_eq_zero_of_not_mem hfirst]
    have hwhole : (lossyLines (before ++ first ++ [newline])).length = before.count newline + 1 := by
      rw [Utf8.length_lossyLines_ended, List.count_append, List.count_eq_zero_of_not_mem hfirst,
        Nat.add_zero]
    have hindex : before.count newline + (index + 1) - (before.count newline + 1) = index := by omega
    rw [Utf8.lossyLines_append, List.getElem?_append_right (hfront ▸ Nat.le_add_left 1 index), hfront,
      Nat.add_sub_cancel] at hline
    rw [← List.append_assoc, Utf8.lossyLines_append, List.getElem?_append_right, hwhole, hindex]
    · exact hline
    · rw [hwhole]
      exact Nat.add_le_add_left (Nat.le_add_left 1 index) _
  · have hlength := Utf8.length_lossyLines tail
    rw [List.count_eq_zero_of_not_mem hnewline] at hlength
    have hle : (lossyLines tail).length ≤ index + 1 := by
      split at hlength <;> omega
    rw [List.getElem?_eq_none hle] at hline
    cases hline

/-- The lines of a redacted text are the redacted lines of the text. -/
theorem splitOn_redact (hnotice : '\n' ∉ redactor.notice.toList) {text : String}
    (htext : Text.lines text ≠ []) :
    (redactor.redact text).toList.splitOn '\n'
      = (Text.lines text).map fun line => (redactor.redactLine line).toList := by
  unfold redact
  rw [Text.toList_join, List.splitOn_intercalate]
  · rw [List.map_map]
    rfl
  · intro chars hchars
    rw [List.map_map, List.mem_map] at hchars
    obtain ⟨line, hline, rfl⟩ := hchars
    exact newline_notMem_redactLine hnotice hline
  · simpa using htext

theorem redactLine_of_isSensitive {line : String} (hsensitive : redactor.isSensitive line = true) :
    redactor.redactLine line = redactor.notice := if_pos hsensitive

theorem redactLine_empty : (redactor.redactLine "").toList = redactor.notice.toList ∨
    (redactor.redactLine "").toList = [] := by
  unfold redactLine
  split
  · exact Or.inl rfl
  · right
    unfold Text.takeChars
    rw [String.toList_ofList]
    exact List.take_nil

/-- A line of which nothing is left but the notice is empty or replaced by it. -/
theorem of_redactLine_hidden (hlimit : 0 < redactor.limit) {line : String}
    (h : (redactor.redactLine line).toList = redactor.notice.toList ∨ (redactor.redactLine line).toList = []) :
    line = "" ∨ redactor.redactLine line = redactor.notice := by
  obtain hsame | hempty := h
  · exact Or.inr (String.toList_inj.mp hsame)
  · by_cases hsensitive : redactor.isSensitive line = true
    · exact Or.inr (redactLine_of_isSensitive hsensitive)
    · left
      unfold redactLine Text.takeChars at hempty
      rw [if_neg hsensitive, String.toList_ofList, List.take_eq_nil_iff] at hempty
      obtain hzero | hnil := hempty
      · omega
      · exact String.toList_eq_nil_iff.mp hnil

/-- The end hides the lines exactly where the cut is clean. -/
theorem hidesLines_redact_iff (hnotice : '\n' ∉ redactor.notice.toList) (hlimit : 0 < redactor.limit)
    (content : Bytes) (start : Nat) :
    redactor.HidesLines content start (redactor.redact (fromUtf8Lossy (content.drop start))) ↔
      redactor.CleanCut content start := by
  have hshown (hlines : lossyLines (content.drop start) ≠ []) :
      (redactor.redact (fromUtf8Lossy (content.drop start))).toList.splitOn '\n'
        = (lossyLines (content.drop start)).map fun line => (redactor.redactLine line).toList :=
    splitOn_redact hnotice hlines
  constructor
  · intro hhides line rest hline hsensitive hrest
    have hlines : lossyLines (content.drop start) ≠ [] := by
      intro hnil
      rw [hnil] at hrest
      cases hrest
    apply of_redactLine_hidden hlimit
    apply hhides 0 line _ hline hsensitive
    rw [hshown hlines, List.getElem?_map, ← List.head?_eq_getElem?]
    exact congrArg (Option.map _) hrest
  · intro hclean index line shown hline hsensitive htext
    by_cases hlines : lossyLines (content.drop start) = []
    · have hempty : redactor.redact (fromUtf8Lossy (content.drop start)) = "" := by
        unfold redact
        unfold lossyLines at hlines
        rw [hlines]
        rfl
      rw [hempty] at htext
      right
      exact List.mem_singleton.mp (List.mem_of_getElem? htext)
    · rw [hshown hlines, List.getElem?_map] at htext
      obtain ⟨rest, hrest, rfl⟩ := Option.map_eq_some_iff.mp htext
      cases index with
      | zero =>
          have hhead : (lossyLines (content.drop start)).head? = some rest := by
            rw [List.head?_eq_getElem?]
            exact hrest
          obtain rfl | hreplaced := hclean line rest hline hsensitive hhead
          · exact redactLine_empty
          · exact Or.inl (congrArg String.toList hreplaced)
      | succ index =>
          have hwhole := getElem?_lossyLines_of_tail (content.take start) hrest
          rw [List.take_append_drop, hline] at hwhole
          rw [← Option.some.inj hwhole, redactLine_of_isSensitive hsensitive]
          exact Or.inl rfl

end Redactor
