import LightAI.Base.Lines

/-!
# Redaction by line

A redactor replaces every line in which one of its markers occurs, in any letter case, by a notice, and cuts
every other line short. What it leaves has no marker in it, nor can one arise where clean texts are joined at
a character that no marker holds.
-/

structure Redactor where
  needles : List String
  limit : Nat
  notice : String
  needle_ne_empty : ∀ needle ∈ needles, needle.toList ≠ []
  newline_notMem : ∀ needle ∈ needles, '\n' ∉ needle.toList
  notice_clean : ∀ needle ∈ needles, ¬ needle.toList <:+: notice.toList.map Char.toLower

namespace Redactor

def isSensitive (redactor : Redactor) (line : String) : Bool :=
  redactor.needles.any (Text.contains (Text.toAsciiLowercase line))

def redactLine (redactor : Redactor) (line : String) : String :=
  if redactor.isSensitive line then redactor.notice else Text.takeChars redactor.limit line

def redact (redactor : Redactor) (text : String) : String :=
  Text.join ((Text.lines text).map redactor.redactLine)

/-- A marker occurs in the text, in some letter case. -/
def Mentions (redactor : Redactor) (text : List Char) : Prop :=
  ∃ needle ∈ redactor.needles, needle.toList <:+: text.map Char.toLower

variable {redactor : Redactor}

theorem isSensitive_iff {line : String} :
    redactor.isSensitive line = true ↔ redactor.Mentions line.toList := by
  unfold isSensitive Mentions
  rw [List.any_eq_true]
  simp only [Text.contains_iff, Text.toList_toAsciiLowercase]

theorem Mentions.of_infix {part text : List Char} (hpart : part <:+: text)
    (hmentions : redactor.Mentions part) : redactor.Mentions text := by
  obtain ⟨needle, hneedle, hinfix⟩ := hmentions
  exact ⟨needle, hneedle, hinfix.trans (hpart.map Char.toLower)⟩

theorem not_mentions_nil : ¬ redactor.Mentions [] := by
  rintro ⟨needle, hneedle, hinfix⟩
  exact redactor.needle_ne_empty needle hneedle (List.infix_nil.mp hinfix)

/-- A character that no marker holds keeps the two sides apart. -/
theorem Mentions.of_append_cons {left right : List Char} {c : Char}
    (hc : ∀ needle ∈ redactor.needles, c.toLower ∉ needle.toList)
    (hmentions : redactor.Mentions (left ++ c :: right)) :
    redactor.Mentions left ∨ redactor.Mentions right := by
  obtain ⟨needle, hneedle, hinfix⟩ := hmentions
  rw [List.map_append, List.map_cons] at hinfix
  exact (Text.infix_append_cons (hc needle hneedle) hinfix).imp (fun h => ⟨needle, hneedle, h⟩)
    fun h => ⟨needle, hneedle, h⟩

theorem redactLine_clean (line : String) : ¬ redactor.Mentions (redactor.redactLine line).toList := by
  unfold redactLine
  by_cases hsensitive : redactor.isSensitive line = true
  · rw [if_pos hsensitive]
    rintro ⟨needle, hneedle, hinfix⟩
    exact redactor.notice_clean needle hneedle hinfix
  · rw [if_neg hsensitive]
    intro hmentions
    apply hsensitive
    rw [isSensitive_iff]
    apply hmentions.of_infix
    unfold Text.takeChars
    rw [String.toList_ofList]
    exact (List.take_prefix _ _).isInfix

/-- No marker occurs in a redacted text, not even across its lines. -/
theorem redact_clean (text : String) : ¬ redactor.Mentions (redactor.redact text).toList := by
  rintro ⟨needle, hneedle, hinfix⟩
  have hjoined : (redactor.redact text).toList.map Char.toLower
      = ['\n'].intercalate (((Text.lines text).map redactor.redactLine).map
          fun line => line.toList.map Char.toLower) := by
    unfold redact
    rw [Text.toList_join, Text.map_intercalate, List.map_map]
    rfl
  rw [hjoined] at hinfix
  obtain ⟨piece, hpiece, hin⟩ := Text.infix_intercalate (redactor.newline_notMem needle hneedle)
    (redactor.needle_ne_empty needle hneedle) hinfix
  rw [List.map_map, List.mem_map] at hpiece
  obtain ⟨line, -, rfl⟩ := hpiece
  exact redactLine_clean line ⟨needle, hneedle, hin⟩

end Redactor
