import LightAI.Base.Lines

/-!
# Words and numbers in a line

Words that are written one after the other with spaces between them are read back as they are, and so is a
number that fits into what it is read into.
-/

namespace Text

/-! ### Words -/

/-- What stands between whitespace. -/
structure IsWord (word : String) : Prop where
  ne_empty : word ≠ ""
  unspaced : ∀ c ∈ word.toList, isWhitespace c = false

section Pieces

variable {word rest : List Char}

/-- What `splitWhitespace` keeps of a text. -/
def pieces (text : List Char) : List (List Char) := (text.splitOnP isWhitespace).filter (· ≠ [])

theorem pieces_of_unspaced (hne : word ≠ []) (hword : ∀ c ∈ word, isWhitespace c = false) :
    pieces word = [word] := by
  unfold pieces
  rw [List.splitOnP_eq_singleton hword, List.filter_singleton, decide_eq_true hne]
  rfl

theorem pieces_word_append (hne : word ≠ []) (hword : ∀ c ∈ word, isWhitespace c = false) {space : Char}
    (hspace : isWhitespace space = true) : pieces (word ++ space :: rest) = word :: pieces rest := by
  unfold pieces
  rw [List.splitOnP_append_cons_of_forall_mem hword space hspace, List.filter_cons, decide_eq_true hne]
  rfl

theorem pieces_of_blank {text : List Char} (hblank : ∀ c ∈ text, isWhitespace c = true) : pieces text = [] := by
  induction text with
  | nil => rfl
  | cons c text ih =>
      obtain ⟨hc, htext⟩ := List.forall_mem_cons.mp hblank
      have hsplit : (c :: text).splitOnP isWhitespace = [] :: text.splitOnP isWhitespace :=
        List.splitOnP_append_cons_of_forall_mem (fun _ hmem => absurd hmem List.not_mem_nil) c hc text
      unfold pieces
      rw [hsplit, List.filter_cons_of_neg (by simp)]
      exact ih htext

/-- Whitespace at the end is not read. -/
theorem pieces_word_blank (hne : word ≠ []) (hword : ∀ c ∈ word, isWhitespace c = false)
    (hblank : ∀ c ∈ rest, isWhitespace c = true) : pieces (word ++ rest) = [word] := by
  cases rest with
  | nil =>
      rw [List.append_nil]
      exact pieces_of_unspaced hne hword
  | cons space rest =>
      obtain ⟨hspace, hrest⟩ := List.forall_mem_cons.mp hblank
      rw [pieces_word_append hne hword hspace, pieces_of_blank hrest]

end Pieces

/-- Words with spaces between them are read back, whatever whitespace ends the line. -/
theorem splitWhitespace_words {words : List String} (hwords : ∀ word ∈ words, IsWord word) {ending : String}
    (hending : isBlank ending = true) : splitWhitespace (" ".intercalate words ++ ending) = words := by
  have hblank : ∀ c ∈ ending.toList, isWhitespace c = true := List.all_eq_true.mp hending
  have hpieces : ∀ rest : List String, (∀ word ∈ rest, IsWord word) →
      pieces (" ".intercalate rest ++ ending).toList = rest.map String.toList := by
    intro rest hrest
    induction rest with
    | nil =>
        rw [String.intercalate_nil, String.toList_append]
        exact pieces_of_blank hblank
    | cons word rest ih =>
        obtain ⟨hword, hlater⟩ := List.forall_mem_cons.mp hrest
        have hne : word.toList ≠ [] := fun hnil => hword.ne_empty (String.toList_eq_nil_iff.mp hnil)
        cases rest with
        | nil =>
            rw [String.intercalate_singleton, String.toList_append]
            exact pieces_word_blank hne hword.unspaced hblank
        | cons next rest =>
            have hline : (" ".intercalate (word :: next :: rest) ++ ending).toList
                = word.toList ++ ' ' :: (" ".intercalate (next :: rest) ++ ending).toList := by
              rw [String.intercalate_cons_cons]
              simp only [String.toList_append, List.append_assoc]
              rfl
            rw [hline, pieces_word_append hne hword.unspaced (by decide), ih hlater]
            rfl
  calc splitWhitespace (" ".intercalate words ++ ending)
      = (pieces (" ".intercalate words ++ ending).toList).map String.ofList := rfl
    _ = (words.map String.toList).map String.ofList := by rw [hpieces words hwords]
    _ = words := by simp

/-! ### Numbers -/

theorem digitsValue_toDigits (n : Nat) : digitsValue (Nat.toDigits 10 n) = n :=
  Nat.ofDigitChars_ten_toDigits

/-- A number that fits is read back. -/
theorem parseU64_toString {n : Nat} (hn : n < 2 ^ 64) : parseU64 (toString n) = some n := by
  have htext : (toString n).toList = Nat.toDigits 10 n := Nat.toList_repr
  have hdigit : ∀ c ∈ Nat.toDigits 10 n, c.isDigit = true := fun c hc =>
    Nat.isDigit_of_mem_toDigits (by omega) (by omega) hc
  have hall : (Nat.toDigits 10 n).all (fun c => '0'.toNat ≤ c.toNat && c.toNat ≤ '9'.toNat) = true := by
    rw [List.all_eq_true]
    intro c hc
    obtain ⟨hge, hle⟩ := Char.isDigit_iff_toNat.mp (hdigit c hc)
    rw [Bool.and_eq_true]
    exact ⟨decide_eq_true hge, decide_eq_true hle⟩
  have hplus : ∀ rest, Nat.toDigits 10 n ≠ '+' :: rest := by
    intro rest heq
    have hc := hdigit '+' (heq ▸ List.mem_cons_self)
    cases hc
  have hfits : digitsValue (Nat.toDigits 10 n) < 2 ^ 64 := by
    rw [digitsValue_toDigits]
    exact hn
  unfold parseU64
  rw [htext]
  split
  · rename_i rest heq
    exact absurd heq (hplus rest)
  · dsimp only
    split
    · rename_i rest heq
      exact absurd heq (hplus rest)
    · rw [if_pos ⟨Nat.toDigits_ne_nil, hall, hfits⟩, digitsValue_toDigits]

end Text
