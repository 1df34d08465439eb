import Mathlib

/-!
# UTF-8 with errors

A text is read from bytes character by character. Where no character can be read, the bytes that could still
have begun one are replaced by U+FFFD, at least one byte each time. ASCII bytes are always characters of their
own, so reading can start afresh after any of them.
-/

namespace Utf8

abbrev Bytes := List UInt8

def isContinuation (byte : UInt8) : Bool := 0x80 ≤ byte.toNat && byte.toNat < 0xC0

/-- The number of bytes of the characters that begin with a byte, and 0 if none does. -/
def width (first : UInt8) : Nat :=
  if first.toNat < 0x80 then 1
  else if first.toNat < 0xC2 then 0
  else if first.toNat < 0xE0 then 2
  else if first.toNat < 0xF0 then 3
  else if first.toNat < 0xF5 then 4
  else 0

/-- The bytes that may come second: neither overlong encodings nor surrogates nor numbers beyond the last
character. -/
def maySecond (first second : UInt8) : Bool :=
  if first.toNat = 0xE0 then 0xA0 ≤ second.toNat && second.toNat < 0xC0
  else if first.toNat = 0xED then 0x80 ≤ second.toNat && second.toNat < 0xA0
  else if first.toNat = 0xF0 then 0x90 ≤ second.toNat && second.toNat < 0xC0
  else if first.toNat = 0xF4 then 0x80 ≤ second.toNat && second.toNat < 0x90
  else isContinuation second

/-- The bytes after the first that go on with its character. -/
def continuing (first : UInt8) : Bytes → Bytes
  | [] => []
  | second :: rest =>
      if maySecond first second then
        (second :: rest.takeWhile isContinuation).take (width first - 1)
      else []

/-- The number of a character from its bytes. -/
def number (first : UInt8) (continuing : Bytes) : Nat :=
  continuing.foldl (fun value byte => 64 * value + byte.toNat % 64)
    (if continuing.isEmpty then first.toNat else first.toNat % 2 ^ (6 - continuing.length))

/-- The character at the front, if there is one, and the number of further bytes that it takes. -/
def decodeHead (first : UInt8) (rest : Bytes) : Option Char × Nat :=
  let taken := continuing first rest
  if taken.length + 1 = width first then (some (Char.ofNat (number first taken)), taken.length)
  else (none, taken.length)

def replacement : Char := Char.ofNat 0xFFFD

/-- The characters of some bytes of which the first few are passed over. -/
def decodeFrom : Nat → Bytes → List Char
  | _, [] => []
  | passed + 1, _ :: rest => decodeFrom passed rest
  | 0, first :: rest =>
      (decodeHead first rest).1.getD replacement :: decodeFrom (decodeHead first rest).2 rest

def decode (bytes : Bytes) : List Char := decodeFrom 0 bytes

/-- `String::from_utf8_lossy`. -/
def fromUtf8Lossy (bytes : Bytes) : String := String.ofList (decode bytes)

def encode (text : List Char) : Bytes := text.flatMap String.utf8EncodeChar

/-! ### Where reading starts afresh -/

theorem continuing_cons (first second : UInt8) (rest : Bytes) :
    continuing first (second :: rest)
      = if maySecond first second then
          (second :: rest.takeWhile isContinuation).take (width first - 1)
        else [] := rfl

theorem decodeFrom_zero_cons (first : UInt8) (rest : Bytes) :
    decodeFrom 0 (first :: rest)
      = (decodeHead first rest).1.getD replacement :: decodeFrom (decodeHead first rest).2 rest := rfl

theorem length_continuing_le (first : UInt8) (rest : Bytes) :
    (continuing first rest).length ≤ rest.length := by
  cases rest with
  | nil => exact le_rfl
  | cons second rest =>
      have hprefix : (rest.takeWhile isContinuation).length ≤ rest.length :=
        (List.takeWhile_prefix _).length_le
      rw [continuing_cons]
      split
      · rw [List.length_take, List.length_cons, List.length_cons]
        omega
      · exact Nat.zero_le _

theorem decodeHead_snd (first : UInt8) (rest : Bytes) :
    (decodeHead first rest).2 = (continuing first rest).length := by
  unfold decodeHead
  dsimp only
  split <;> rfl

theorem not_maySecond_of_ascii (first : UInt8) {byte : UInt8} (hascii : byte.toNat < 0x80) :
    maySecond first byte = false := by
  unfold maySecond isContinuation
  split_ifs <;> simp <;> omega

theorem continuing_append_ascii (first : UInt8) (rest : Bytes) {byte : UInt8}
    (hascii : byte.toNat < 0x80) (after : Bytes) :
    continuing first (rest ++ byte :: after) = continuing first rest := by
  have hnot : isContinuation byte = false := by
    unfold isContinuation
    simp
    omega
  cases rest with
  | nil =>
      rw [List.nil_append, continuing_cons, not_maySecond_of_ascii first hascii]
      rfl
  | cons second rest =>
      rw [List.cons_append, continuing_cons, continuing_cons]
      have htake : (rest ++ byte :: after).takeWhile isContinuation = rest.takeWhile isContinuation := by
        induction rest with
        | nil => rw [List.nil_append, List.takeWhile_cons, hnot]; rfl
        | cons next rest ih => rw [List.cons_append, List.takeWhile_cons, List.takeWhile_cons, ih]
      rw [htake]

theorem decodeHead_append_ascii (first : UInt8) (rest : Bytes) {byte : UInt8}
    (hascii : byte.toNat < 0x80) (after : Bytes) :
    decodeHead first (rest ++ byte :: after) = decodeHead first rest := by
  unfold decodeHead
  rw [continuing_append_ascii first rest hascii after]

theorem decodeHead_ascii {byte : UInt8} (hascii : byte.toNat < 0x80) (rest : Bytes) :
    decodeHead byte rest = (some (Char.ofNat byte.toNat), 0) := by
  have hwidth : width byte = 1 := if_pos hascii
  have hnone : continuing byte rest = [] := by
    cases rest with
    | nil => rfl
    | cons second rest =>
        rw [continuing_cons, hwidth]
        split <;> rfl
  unfold decodeHead
  rw [hnone, hwidth]
  rfl

theorem decodeFrom_append_ascii {passed : Nat} {before : Bytes} (hpassed : passed ≤ before.length)
    {byte : UInt8} (hascii : byte.toNat < 0x80) (after : Bytes) :
    decodeFrom passed (before ++ byte :: after)
      = decodeFrom passed before ++ Char.ofNat byte.toNat :: decode after := by
  induction before generalizing passed with
  | nil =>
      obtain rfl : passed = 0 := Nat.le_zero.mp hpassed
      rw [List.nil_append, decodeFrom_zero_cons, decodeHead_ascii hascii]
      rfl
  | cons first before ih =>
      cases passed with
      | succ passed =>
          rw [List.cons_append, decodeFrom, decodeFrom]
          exact ih (Nat.le_of_succ_le_succ hpassed)
      | zero =>
          rw [List.cons_append, decodeFrom_zero_cons, decodeFrom_zero_cons,
            decodeHead_append_ascii first before hascii]
          have hfits : (decodeHead first before).2 ≤ before.length := by
            rw [decodeHead_snd]
            exact length_continuing_le first before
          rw [ih hfits, List.cons_append]

/-- An ASCII byte separates what is read before it from what is read after it. -/
theorem decode_append_ascii (before : Bytes) {byte : UInt8} (hascii : byte.toNat < 0x80) (after : Bytes) :
    decode (before ++ byte :: after) = decode before ++ Char.ofNat byte.toNat :: decode after :=
  decodeFrom_append_ascii (Nat.zero_le _) hascii after

/-! ### Characters of several bytes -/

theorem of_width_two {first : UInt8} (hwidth : width first = 2) :
    0xC2 ≤ first.toNat ∧ first.toNat < 0xE0 := by
  unfold width at hwidth
  split_ifs at hwidth <;> omega

theorem of_width_three {first : UInt8} (hwidth : width first = 3) :
    0xE0 ≤ first.toNat ∧ first.toNat < 0xF0 := by
  unfold width at hwidth
  split_ifs at hwidth <;> omega

theorem of_width_four {first : UInt8} (hwidth : width first = 4) :
    0xF0 ≤ first.toNat ∧ first.toNat < 0xF5 := by
  unfold width at hwidth
  split_ifs at hwidth <;> omega

theorem width_le_four (first : UInt8) : width first ≤ 4 := by
  unfold width
  split_ifs <;> omega

theorem isContinuation_iff {byte : UInt8} :
    isContinuation byte = true ↔ 0x80 ≤ byte.toNat ∧ byte.toNat < 0xC0 := by
  unfold isContinuation
  rw [Bool.and_eq_true, decide_eq_true_iff, decide_eq_true_iff]

/-- What the table of second bytes says of the first two bytes. -/
theorem maySecond_iff {first second : UInt8} :
    maySecond first second = true ↔
      0x80 ≤ second.toNat ∧ second.toNat < 0xC0 ∧ (first.toNat = 0xE0 → 0xA0 ≤ second.toNat) ∧
        (first.toNat = 0xED → second.toNat < 0xA0) ∧ (first.toNat = 0xF0 → 0x90 ≤ second.toNat) ∧
        (first.toNat = 0xF4 → second.toNat < 0x90) := by
  unfold maySecond isContinuation
  split_ifs <;> rw [Bool.and_eq_true, decide_eq_true_iff, decide_eq_true_iff] <;> omega

/-- The bytes that go on with a character, written out. -/
theorem continuing_cases {first : UInt8} {rest : Bytes}
    (hlength : (continuing first rest).length + 1 = width first) :
    (first.toNat < 0x80 ∧ continuing first rest = []) ∨
    (∃ second, continuing first rest = [second] ∧ width first = 2 ∧ maySecond first second = true) ∨
    (∃ second third, continuing first rest = [second, third] ∧ width first = 3 ∧
      maySecond first second = true ∧ isContinuation third = true) ∨
    ∃ second third fourth, continuing first rest = [second, third, fourth] ∧ width first = 4 ∧
      maySecond first second = true ∧ isContinuation third = true ∧ isContinuation fourth = true := by
  have hbound := width_le_four first
  have hcontinuation (more : Bytes) : ∀ byte ∈ more.takeWhile isContinuation, isContinuation byte = true :=
    fun byte hbyte => List.mem_takeWhile_imp hbyte
  cases rest with
  | nil =>
      have hone : width first = 1 := hlength.symm
      left
      refine ⟨?_, rfl⟩
      unfold width at hone
      split_ifs at hone <;> omega
  | cons second more =>
      by_cases hsecond : maySecond first second = true
      · rw [continuing_cons, if_pos hsecond] at hlength ⊢
        have hmore := hcontinuation more
        generalize more.takeWhile isContinuation = taken at hlength hmore ⊢
        obtain hwidth | hwidth | hwidth | hwidth | hwidth : width first = 0 ∨ width first = 1 ∨
            width first = 2 ∨ width first = 3 ∨ width first = 4 := by omega
        · rw [hwidth] at hlength
          cases hlength
        · left
          refine ⟨?_, by rw [hwidth]; rfl⟩
          unfold width at hwidth
          split_ifs at hwidth <;> omega
        · right; left
          exact ⟨second, by rw [hwidth]; rfl, hwidth, hsecond⟩
        · right; right; left
          rw [hwidth] at hlength ⊢
          cases taken with
          | nil => cases hlength
          | cons third taken =>
              exact ⟨second, third, rfl, rfl, hsecond, hmore third List.mem_cons_self⟩
        · right; right; right
          rw [hwidth] at hlength ⊢
          cases taken with
          | nil => cases hlength
          | cons third taken =>
              cases taken with
              | nil => cases hlength
              | cons fourth taken =>
                  exact ⟨second, third, fourth, rfl, rfl, hsecond, hmore third List.mem_cons_self,
                    hmore fourth (List.mem_cons_of_mem _ List.mem_cons_self)⟩
      · rw [continuing_cons, if_neg hsecond] at hlength ⊢
        have hone : width first = 1 := hlength.symm
        left
        refine ⟨?_, rfl⟩
        unfold width at hone
        split_ifs at hone <;> omega

theorem toNat_ofNat {value : Nat} (hvalid : value.isValidChar) : (Char.ofNat value).toNat = value := by
  unfold Char.ofNat
  rw [dif_pos hvalid]
  exact UInt32.toNat_ofNatLT

/-- An ASCII character comes from a byte of its own. -/
theorem decodeHead_eq_ascii {first : UInt8} {rest : Bytes} {c : Char} (hc : c.toNat < 0x80)
    (hhead : (decodeHead first rest).1.getD replacement = c) : first.toNat = c.toNat := by
  have hreplacement : replacement.toNat = 0xFFFD := by decide
  unfold decodeHead at hhead
  dsimp only at hhead
  by_cases hlength : (continuing first rest).length + 1 = width first
  · rw [if_pos hlength, Option.getD_some] at hhead
    obtain ⟨hascii, hnone⟩ | ⟨second, htwo, hwidth, hsecond⟩ |
        ⟨second, third, hthree, hwidth, hsecond, hthird⟩ |
        ⟨second, third, fourth, hfour, hwidth, hsecond, hthird, hfourth⟩ := continuing_cases hlength
    · rw [hnone] at hhead
      have hnumber : number first [] = first.toNat := rfl
      have hvalid : first.toNat.isValidChar := Or.inl (by omega)
      rw [← hhead, hnumber, toNat_ofNat hvalid]
    · have hfirst := of_width_two hwidth
      have hsecond := maySecond_iff.mp hsecond
      have hnumber : number first [second] = 64 * (first.toNat % 32) + second.toNat % 64 := rfl
      have hvalid : (number first [second]).isValidChar := Or.inl (by omega)
      rw [htwo] at hhead
      rw [← hhead, toNat_ofNat hvalid] at hc
      omega
    · have hfirst := of_width_three hwidth
      have hsecond := maySecond_iff.mp hsecond
      have hthird := isContinuation_iff.mp hthird
      have hnumber : number first [second, third]
          = 64 * (64 * (first.toNat % 16) + second.toNat % 64) + third.toNat % 64 := rfl
      have hvalid : (number first [second, third]).isValidChar := by
        unfold Nat.isValidChar
        omega
      rw [hthree] at hhead
      rw [← hhead, toNat_ofNat hvalid] at hc
      omega
    · have hfirst := of_width_four hwidth
      have hsecond := maySecond_iff.mp hsecond
      have hthird := isContinuation_iff.mp hthird
      have hfourth := isContinuation_iff.mp hfourth
      have hnumber : number first [second, third, fourth]
          = 64 * (64 * (64 * (first.toNat % 8) + second.toNat % 64) + third.toNat % 64)
            + fourth.toNat % 64 := rfl
      have hvalid : (number first [second, third, fourth]).isValidChar := by
        unfold Nat.isValidChar
        omega
      rw [hfour] at hhead
      rw [← hhead, toNat_ofNat hvalid] at hc
      omega
  · rw [if_neg hlength, Option.getD_none] at hhead
    rw [← hhead, hreplacement] at hc
    omega

theorem mem_decodeFrom_ascii {passed : Nat} {bytes : Bytes} {c : Char} (hc : c.toNat < 0x80)
    (hmem : c ∈ decodeFrom passed bytes) : ∃ byte ∈ bytes, byte.toNat = c.toNat := by
  induction bytes generalizing passed with
  | nil =>
      cases passed <;> cases hmem
  | cons first rest ih =>
      cases passed with
      | succ passed =>
          obtain ⟨byte, hbyte, hsame⟩ : ∃ byte ∈ rest, byte.toNat = c.toNat := ih hmem
          exact ⟨byte, List.mem_cons_of_mem _ hbyte, hsame⟩
      | zero =>
          rw [decodeFrom_zero_cons, List.mem_cons] at hmem
          obtain hhead | hlater := hmem
          · exact ⟨first, List.mem_cons_self, decodeHead_eq_ascii hc hhead.symm⟩
          · obtain ⟨byte, hbyte, hsame⟩ := ih hlater
            exact ⟨byte, List.mem_cons_of_mem _ hbyte, hsame⟩

/-! ### What was encoded -/

theorem width_eq_two {first : UInt8} (hlow : 0xC2 ≤ first.toNat) (hhigh : first.toNat < 0xE0) :
    width first = 2 := by
  unfold width
  split_ifs <;> omega

theorem width_eq_three {first : UInt8} (hlow : 0xE0 ≤ first.toNat) (hhigh : first.toNat < 0xF0) :
    width first = 3 := by
  unfold width
  split_ifs <;> omega

theorem width_eq_four {first : UInt8} (hlow : 0xF0 ≤ first.toNat) (hhigh : first.toNat < 0xF5) :
    width first = 4 := by
  unfold width
  split_ifs <;> omega

theorem decodeHead_of_continuing {first : UInt8} {rest taken : Bytes} {c : Char}
    (htaken : continuing first rest = taken) (hlength : taken.length + 1 = width first)
    (hnumber : number first taken = c.toNat) : decodeHead first rest = (some c, taken.length) := by
  unfold decodeHead
  dsimp only
  rw [htaken, if_pos hlength, hnumber, Char.ofNat_toNat]

/-- Reading gives back the character that was written. -/
theorem decode_encodeChar_append (c : Char) (rest : Bytes) :
    decode (String.utf8EncodeChar c ++ rest) = c :: decode rest := by
  have hvalid : c.toNat < 0xD800 ∨ 0xDFFF < c.toNat ∧ c.toNat < 0x110000 := c.valid
  have hval : c.val.toNat = c.toNat := rfl
  unfold String.utf8EncodeChar decode
  dsimp only
  rw [hval]
  by_cases hone : c.toNat ≤ 0x7f
  · rw [if_pos hone, List.cons_append, List.nil_append, decodeFrom_zero_cons]
    have hbyte : (UInt8.ofNat c.toNat).toNat = c.toNat := by
      rw [UInt8.toNat_ofNat']
      omega
    rw [decodeHead_ascii (by omega), hbyte, Char.ofNat_toNat]
    rfl
  · rw [if_neg hone]
    by_cases htwo : c.toNat ≤ 0x7ff
    · rw [if_pos htwo]
      have hfirst : (UInt8.ofNat (c.toNat / 64 % 0x20 + 0xc0)).toNat = c.toNat / 64 + 0xc0 := by
        rw [UInt8.toNat_ofNat']
        omega
      have hsecond : (UInt8.ofNat (c.toNat % 0x40 + 0x80)).toNat = c.toNat % 64 + 0x80 := by
        rw [UInt8.toNat_ofNat']
        omega
      generalize UInt8.ofNat (c.toNat / 64 % 0x20 + 0xc0) = first at hfirst ⊢
      generalize UInt8.ofNat (c.toNat % 0x40 + 0x80) = second at hsecond ⊢
      have hwidth : width first = 2 := width_eq_two (by omega) (by omega)
      have hmay : maySecond first second = true := maySecond_iff.mpr (by omega)
      have htaken : continuing first (second :: rest) = [second] := by
        rw [continuing_cons, if_pos hmay, hwidth]
        rfl
      have hnumber : number first [second] = c.toNat := by
        have hunfolded : number first [second] = 64 * (first.toNat % 32) + second.toNat % 64 := rfl
        omega
      have hhead := decodeHead_of_continuing htaken hwidth.symm hnumber
      calc decodeFrom 0 (first :: second :: rest)
          = c :: decodeFrom 1 (second :: rest) := by rw [decodeFrom_zero_cons, hhead]; rfl
        _ = c :: decodeFrom 0 rest := rfl
    · rw [if_neg htwo]
      by_cases hthree : c.toNat ≤ 0xffff
      · rw [if_pos hthree]
        have hfirst : (UInt8.ofNat (c.toNat / 4096 % 0x10 + 0xe0)).toNat = c.toNat / 4096 + 0xe0 := by
          rw [UInt8.toNat_ofNat']
          omega
        have hsecond : (UInt8.ofNat (c.toNat / 64 % 0x40 + 0x80)).toNat = c.toNat / 64 % 64 + 0x80 := by
          rw [UInt8.toNat_ofNat']
          omega
        have hthird : (UInt8.ofNat (c.toNat % 0x40 + 0x80)).toNat = c.toNat % 64 + 0x80 := by
          rw [UInt8.toNat_ofNat']
          omega
        generalize UInt8.ofNat (c.toNat / 4096 % 0x10 + 0xe0) = first at hfirst ⊢
        generalize UInt8.ofNat (c.toNat / 64 % 0x40 + 0x80) = second at hsecond ⊢
        generalize UInt8.ofNat (c.toNat % 0x40 + 0x80) = third at hthird ⊢
        have hwidth : width first = 3 := width_eq_three (by omega) (by omega)
        have hmay : maySecond first second = true := maySecond_iff.mpr (by omega)
        have hcontinues : isContinuation third = true := isContinuation_iff.mpr (by omega)
        have htaken : continuing first (second :: third :: rest) = [second, third] := by
          rw [continuing_cons, if_pos hmay, hwidth, List.takeWhile_cons, hcontinues]
          rfl
        have hnumber : number first [second, third] = c.toNat := by
          have hunfolded : number first [second, third]
              = 64 * (64 * (first.toNat % 16) + second.toNat % 64) + third.toNat % 64 := rfl
          omega
        have hhead := decodeHead_of_continuing htaken hwidth.symm hnumber
        calc decodeFrom 0 (first :: second :: third :: rest)
            = c :: decodeFrom 2 (second :: third :: rest) := by rw [decodeFrom_zero_cons, hhead]; rfl
          _ = c :: decodeFrom 0 rest := rfl
      · rw [if_neg hthree]
        have hfirst : (UInt8.ofNat (c.toNat / 262144 % 0x08 + 0xf0)).toNat
            = c.toNat / 262144 + 0xf0 := by
          rw [UInt8.toNat_ofNat']
          omega
        have hsecond : (UInt8.ofNat (c.toNat / 4096 % 0x40 + 0x80)).toNat
            = c.toNat / 4096 % 64 + 0x80 := by
          rw [UInt8.toNat_ofNat']
          omega
        have hthird : (UInt8.ofNat (c.toNat / 64 % 0x40 + 0x80)).toNat = c.toNat / 64 % 64 + 0x80 := by
          rw [UInt8.toNat_ofNat']
          omega
        have hfourth : (UInt8.ofNat (c.toNat % 0x40 + 0x80)).toNat = c.toNat % 64 + 0x80 := by
          rw [UInt8.toNat_ofNat']
          omega
        generalize UInt8.ofNat (c.toNat / 262144 % 0x08 + 0xf0) = first at hfirst ⊢
        generalize UInt8.ofNat (c.toNat / 4096 % 0x40 + 0x80) = second at hsecond ⊢
        generalize UInt8.ofNat (c.toNat / 64 % 0x40 + 0x80) = third at hthird ⊢
        generalize UInt8.ofNat (c.toNat % 0x40 + 0x80) = fourth at hfourth ⊢
        have hwidth : width first = 4 := width_eq_four (by omega) (by omega)
        have hmay : maySecond first second = true := maySecond_iff.mpr (by omega)
        have hcontinues : isContinuation third = true := isContinuation_iff.mpr (by omega)
        have hcloses : isContinuation fourth = true := isContinuation_iff.mpr (by omega)
        have htaken : continuing first (second :: third :: fourth :: rest) = [second, third, fourth] := by
          rw [continuing_cons, if_pos hmay, hwidth, List.takeWhile_cons, hcontinues, if_pos rfl,
            List.takeWhile_cons, hcloses]
          rfl
        have hnumber : number first [second, third, fourth] = c.toNat := by
          have hunfolded : number first [second, third, fourth]
              = 64 * (64 * (64 * (first.toNat % 8) + second.toNat % 64) + third.toNat % 64)
                + fourth.toNat % 64 := rfl
          omega
        have hhead := decodeHead_of_continuing htaken hwidth.symm hnumber
        calc decodeFrom 0 (first :: second :: third :: fourth :: rest)
            = c :: decodeFrom 3 (second :: third :: fourth :: rest) := by
              rw [decodeFrom_zero_cons, hhead]; rfl
          _ = c :: decodeFrom 0 rest := rfl

theorem decode_encode (text : List Char) : decode (encode text) = text := by
  induction text with
  | nil => rfl
  | cons c text ih =>
      have hencode : encode (c :: text) = String.utf8EncodeChar c ++ encode text := List.flatMap_cons
      rw [hencode, decode_encodeChar_append, ih]

end Utf8
