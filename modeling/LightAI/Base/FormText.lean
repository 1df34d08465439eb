import LightAI.Base.Lines
import LightAI.Base.TextLines
import LightAI.Base.Trim

/-!
# Lists in text fields

A form keeps a list of arguments in a text field, one argument a line. What is read from the field are its
lines, cut to what is between their whitespace, without the blank ones. Reading loses the whitespace, but a
list that has been read once is read again as it is.
-/

namespace FormText

/-- The whitespace that `String.prototype.trim` cuts off. -/
def isSpace (c : Char) : Bool :=
  (9 ≤ c.toNat && c.toNat ≤ 13) || (0x2000 ≤ c.toNat && c.toNat ≤ 0x200A)
    || [0x20, 0xA0, 0x1680, 0x2028, 0x2029, 0x202F, 0x205F, 0x3000, 0xFEFF].contains c.toNat

def trim (text : String) : String :=
  String.ofList ((text.toList.dropWhile isSpace).rdropWhile isSpace)

def linesToArgs (text : String) : List String :=
  ((text.toList.splitOn '\n').map fun line => trim (String.ofList line)).filter (· ≠ "")

/-- What a line can hold: a text with nothing to cut off, neither empty nor of several lines. -/
structure IsArg (arg : String) : Prop where
  ne_empty : arg ≠ ""
  trim_eq : trim arg = arg
  newline_notMem : '\n' ∉ arg.toList

theorem toList_trim (text : String) :
    (trim text).toList = (text.toList.dropWhile isSpace).rdropWhile isSpace := String.toList_ofList

@[simp]
theorem trim_empty : trim "" = "" := rfl

@[simp]
theorem trim_trim (text : String) : trim (trim text) = trim text := by
  rw [← String.toList_inj, toList_trim (trim text), toList_trim, dropWhile_cutAround,
    List.rdropWhile_idempotent]

theorem mem_of_mem_trim {text : String} {c : Char} (hc : c ∈ (trim text).toList) : c ∈ text.toList := by
  rw [toList_trim] at hc
  exact (List.dropWhile_suffix isSpace).mem ((List.rdropWhile_prefix isSpace _).mem hc)

theorem notMem_of_mem_splitOn {c : Char} {text piece : List Char} (hpiece : piece ∈ text.splitOn c) :
    c ∉ piece := by
  induction text using separated_induction c with
  | last text htext =>
      rw [List.splitOn_eq_singleton htext] at hpiece
      rw [List.mem_singleton.mp hpiece]
      exact htext
  | line line rest hline ih =>
      rw [List.splitOn_append_cons_self_of_not_mem hline] at hpiece
      obtain rfl | hlater := List.mem_cons.mp hpiece
      · exact hline
      · exact ih hlater

theorem isArg_of_mem_linesToArgs {text arg : String} (harg : arg ∈ linesToArgs text) : IsArg arg := by
  unfold linesToArgs at harg
  rw [List.mem_filter, List.mem_map] at harg
  obtain ⟨⟨line, hline, rfl⟩, hne⟩ := harg
  refine ⟨of_decide_eq_true hne, trim_trim _, ?_⟩
  intro hnewline
  have hmem := mem_of_mem_trim hnewline
  rw [String.toList_ofList] at hmem
  exact notMem_of_mem_splitOn hline hmem

/-- The list that a text field shows is the list that is read from it. -/
theorem linesToArgs_join {args : List String} (hargs : ∀ arg ∈ args, IsArg arg) :
    linesToArgs (Text.join args) = args := by
  by_cases hnil : args = []
  · rw [hnil]
    rfl
  · have hlines : ∀ line ∈ args.map String.toList, '\n' ∉ line := by
      intro line hline
      obtain ⟨arg, harg, rfl⟩ := List.mem_map.mp hline
      exact (hargs arg harg).newline_notMem
    have hne : args.map String.toList ≠ [] := fun hmap => hnil (List.map_eq_nil_iff.mp hmap)
    have hread : (args.map String.toList).map (fun line => trim (String.ofList line)) = args := by
      rw [List.map_map]
      refine (List.map_congr_left ?_).trans (List.map_id args)
      intro arg harg
      calc trim (String.ofList arg.toList) = trim arg := by rw [String.ofList_toList]
        _ = arg := (hargs arg harg).trim_eq
    unfold linesToArgs
    rw [Text.toList_join, List.splitOn_intercalate '\n' hlines hne, hread, List.filter_eq_self]
    intro arg harg
    exact decide_eq_true (hargs arg harg).ne_empty

/-- A list that was read from a text field comes back from the field that shows it. -/
@[simp]
theorem linesToArgs_join_linesToArgs (text : String) :
    linesToArgs (Text.join (linesToArgs text)) = linesToArgs text :=
  linesToArgs_join fun _ harg => isArg_of_mem_linesToArgs harg

end FormText
