import LightAI.Base.Redaction
import LightAI.Base.Utf8

/-!
# Texts line by line

A text is its lines, each with a line end, except that the last line may have none. The lines of two texts
that are put together are the lines of the one and those of the other, if the first text ends its last line.
The same holds of bytes, since the byte of a line end is a character by itself.
-/

/-- Induction over the parts that a separator ends. -/
theorem separated_induction {α : Type} [DecidableEq α] (c : α) {P : List α → Prop}
    (last : ∀ text, c ∉ text → P text)
    (line : ∀ line rest, c ∉ line → P rest → P (line ++ c :: rest)) (text : List α) : P text := by
  induction hlength : text.length using Nat.strong_induction_on generalizing text with
  | _ length ih =>
      by_cases hc : c ∈ text
      · obtain ⟨front, rest, rfl, hfront⟩ := List.eq_append_cons_of_mem hc
        have hshorter : rest.length < length := by
          rw [← hlength, List.length_append, List.length_cons]
          omega
        exact line front rest hfront (ih rest.length hshorter rest rfl)
      · exact last text hc

namespace Text

/-- A line without the carriage return before its end. -/
def withoutReturn (line : List Char) : List Char :=
  if line.getLast? = some '\r' then line.dropLast else line

theorem lines_eq (text : List Char) :
    lines (String.ofList text)
      = ((text.splitOn '\n').dropLast.map withoutReturn
          ++ ((text.splitOn '\n').getLast?.filter (· ≠ [])).toList).map String.ofList := by
  unfold lines
  rw [String.toList_ofList]
  rfl

theorem lines_of_notMem {text : List Char} (htext : '\n' ∉ text) :
    lines (String.ofList text) = if text = [] then [] else [String.ofList text] := by
  rw [lines_eq, List.splitOn_eq_singleton htext]
  by_cases hnil : text = []
  · rw [if_pos hnil, hnil]
    rfl
  · rw [if_neg hnil, List.getLast?_singleton, Option.filter_some, if_pos (by simpa using hnil)]
    rfl

theorem lines_line_append {line : List Char} (hline : '\n' ∉ line) (rest : List Char) :
    lines (String.ofList (line ++ '\n' :: rest))
      = String.ofList (withoutReturn line) :: lines (String.ofList rest) := by
  rw [lines_eq, lines_eq, List.splitOn_append_cons_self_of_not_mem hline]
  cases hpieces : rest.splitOn '\n' with
  | nil => exact absurd hpieces (List.splitOn_ne_nil _ _)
  | cons piece pieces => rfl

theorem lines_append (left right : List Char) :
    lines (String.ofList (left ++ '\n' :: right))
      = lines (String.ofList (left ++ ['\n'])) ++ lines (String.ofList right) := by
  have hempty : lines (String.ofList []) = [] := rfl
  induction left using separated_induction '\n' with
  | last text htext =>
      rw [lines_line_append htext, lines_line_append htext, hempty, List.singleton_append]
  | line line rest hline ih =>
      rw [List.append_assoc, List.append_assoc, List.cons_append, List.cons_append,
        lines_line_append hline, lines_line_append hline, ih, List.cons_append]

theorem length_lines_ended (text : List Char) :
    (lines (String.ofList (text ++ ['\n']))).length = text.count '\n' + 1 := by
  induction text using separated_induction '\n' with
  | last text htext =>
      rw [lines_line_append htext, List.count_eq_zero_of_not_mem htext]
      rfl
  | line line rest hline ih =>
      rw [List.append_assoc, List.cons_append, lines_line_append hline, List.length_cons, ih,
        List.count_append, List.count_eq_zero_of_not_mem hline, List.count_cons_self, Nat.zero_add]

theorem newline_notMem_line {text line : String} (hline : line ∈ lines text) : '\n' ∉ line.toList := by
  obtain ⟨chars, rfl⟩ : ∃ chars, text = String.ofList chars := ⟨text.toList, String.ofList_toList.symm⟩
  induction chars using separated_induction '\n' with
  | last text htext =>
      rw [lines_of_notMem htext] at hline
      split at hline
      · cases hline
      · rw [List.mem_singleton.mp hline, String.toList_ofList]
        exact htext
  | line front rest hfront ih =>
      rw [lines_line_append hfront, List.mem_cons] at hline
      obtain rfl | hline := hline
      · rw [String.toList_ofList]
        unfold withoutReturn
        split
        · exact fun hmem => hfront (List.mem_of_mem_dropLast hmem)
        · exact hfront
      · exact ih hline

end Text

namespace Redactor

variable {redactor : Redactor}

theorem newline_notMem_redactLine (hnotice : '\n' ∉ redactor.notice.toList) {text line : String}
    (hline : line ∈ Text.lines text) : '\n' ∉ (redactor.redactLine line).toList := by
  unfold redactLine
  split
  · exact hnotice
  · unfold Text.takeChars
    rw [String.toList_ofList]
    exact fun hmem => Text.newline_notMem_line hline (List.mem_of_mem_take hmem)

/-- A redacted text with a line end is its redacted lines with a line end each. -/
theorem redact_ended {text : String} (htext : Text.lines text ≠ []) :
    (redactor.redact text ++ "\n").toList
      = (Text.lines text).flatMap fun line => (redactor.redactLine line).toList ++ ['\n'] := by
  have hjoin (first : List Char) (pieces : List (List Char)) :
      ['\n'].intercalate (first :: pieces) ++ ['\n'] = (first :: pieces).flatMap (· ++ ['\n']) := by
    induction pieces generalizing first with
    | nil => rw [List.intercalate_singleton, List.flatMap_singleton]
    | cons next pieces ih =>
        rw [List.flatMap_cons, ← ih, List.intercalate_cons_cons, List.append_assoc]
  unfold redact
  rw [String.toList_append, Text.toList_join, List.map_map]
  cases hlines : Text.lines text with
  | nil => exact absurd hlines htext
  | cons line lines =>
      rw [List.map_cons]
      exact (hjoin _ _).trans (by rw [← List.map_cons, List.flatMap_map]; rfl)

end Redactor

namespace Utf8

def newline : UInt8 := 0x0A

theorem decode_newline (before after : Bytes) :
    decode (before ++ newline :: after) = decode before ++ '\n' :: decode after :=
  decode_append_ascii before (by decide) after

theorem newline_notMem_decode {bytes : Bytes} (hbytes : newline ∉ bytes) : '\n' ∉ decode bytes := by
  intro hmem
  obtain ⟨byte, hbyte, hsame⟩ := mem_decodeFrom_ascii (by decide) hmem
  have hnewline : byte = newline := UInt8.toNat_inj.mp hsame
  exact hbytes (hnewline ▸ hbyte)

theorem count_newline_decode (bytes : Bytes) : (decode bytes).count '\n' = bytes.count newline := by
  induction bytes using separated_induction newline with
  | last text htext =>
      rw [List.count_eq_zero_of_not_mem htext, List.count_eq_zero_of_not_mem (newline_notMem_decode htext)]
  | line line rest hline ih =>
      rw [decode_newline, List.count_append, List.count_append, List.count_cons_self, List.count_cons_self,
        ih, List.count_eq_zero_of_not_mem hline,
        List.count_eq_zero_of_not_mem (newline_notMem_decode hline)]

theorem decode_eq_nil_iff {bytes : Bytes} : decode bytes = [] ↔ bytes = [] := by
  cases bytes with
  | nil => exact ⟨fun _ => rfl, fun _ => rfl⟩
  | cons first rest => exact ⟨fun h => (List.cons_ne_nil _ _ h).elim, fun h => (List.cons_ne_nil _ _ h).elim⟩

/-- The lines of a text that is read from bytes. -/
def lossyLines (bytes : Bytes) : List String := Text.lines (fromUtf8Lossy bytes)

theorem lossyLines_append (before after : Bytes) :
    lossyLines (before ++ newline :: after)
      = lossyLines (before ++ [newline]) ++ lossyLines after := by
  have hnil : decode [] = [] := rfl
  unfold lossyLines fromUtf8Lossy
  rw [decode_newline, decode_newline, hnil, Text.lines_append]

theorem length_lossyLines_ended (bytes : Bytes) :
    (lossyLines (bytes ++ [newline])).length = bytes.count newline + 1 := by
  have hnil : decode [] = [] := rfl
  unfold lossyLines fromUtf8Lossy
  rw [decode_newline, hnil, Text.length_lines_ended, count_newline_decode]

/-- Whether some bytes leave a line without its end. -/
def LeavesOpen (bytes : Bytes) : Prop := bytes ≠ [] ∧ bytes.getLast? ≠ some newline

instance (bytes : Bytes) : Decidable (LeavesOpen bytes) := inferInstanceAs (Decidable (_ ∧ _))

theorem leavesOpen_append (front : Bytes) {rest : Bytes} (hrest : rest ≠ []) :
    LeavesOpen (front ++ rest) ↔ LeavesOpen rest := by
  unfold LeavesOpen
  rw [List.getLast?_append_of_ne_nil _ hrest]
  exact and_congr_left fun _ => ⟨fun _ => hrest, fun _ h => hrest (List.append_eq_nil_iff.mp h).2⟩

theorem length_lossyLines (bytes : Bytes) :
    (lossyLines bytes).length = bytes.count newline + if LeavesOpen bytes then 1 else 0 := by
  induction bytes using separated_induction newline with
  | last text htext =>
      have hlines : lossyLines text = if decode text = [] then [] else [fromUtf8Lossy text] :=
        Text.lines_of_notMem (newline_notMem_decode htext)
      rw [hlines, List.count_eq_zero_of_not_mem htext]
      by_cases hnil : text = []
      · rw [if_pos (decode_eq_nil_iff.mpr hnil), if_neg fun hopen => hopen.1 hnil]
        rfl
      · have hopen : LeavesOpen text := ⟨hnil, fun hlast => htext (List.mem_of_getLast? hlast)⟩
        rw [if_neg fun hdecoded => hnil (decode_eq_nil_iff.mp hdecoded), if_pos hopen]
        rfl
  | line line rest hline ih =>
      have hopen : LeavesOpen (line ++ newline :: rest) ↔ LeavesOpen rest := by
        by_cases hrest : rest = []
        · rw [hrest]
          refine ⟨fun hopen => absurd List.getLast?_concat hopen.2, fun hopen => absurd rfl hopen.1⟩
        · rw [List.append_cons]
          exact leavesOpen_append _ hrest
      rw [lossyLines_append, List.length_append, length_lossyLines_ended, ih, List.count_append,
        List.count_cons_self, if_congr hopen rfl rfl]
      omega

end Utf8
