import LightAI.Base.Utf8

/-!
# Slices at byte offsets

A text is sliced at an offset in bytes. The slice exists exactly where a character begins at the offset, which
is seen from the one byte there: it does not go on with a character.
-/

namespace Utf8

/-- `&text[start..]`, which panics where no character begins at the offset. -/
def sliceFrom : List Char → Nat → Option (List Char)
  | text, 0 => some text
  | [], _ + 1 => none
  | c :: text, start + 1 =>
      if c.utf8Size ≤ start + 1 then sliceFrom text (start + 1 - c.utf8Size) else none

/-- No character goes over the offset. -/
def IsBoundary (text : List Char) (offset : Nat) : Prop :=
  ∀ byte, (encode text)[offset]? = some byte → isContinuation byte = false

@[simp]
theorem encode_nil : encode [] = [] := rfl

theorem encode_cons (c : Char) (text : List Char) :
    encode (c :: text) = String.utf8EncodeChar c ++ encode text := List.flatMap_cons

theorem encode_append (left right : List Char) : encode (left ++ right) = encode left ++ encode right :=
  List.flatMap_append

theorem length_encode_cons (c : Char) (text : List Char) :
    (encode (c :: text)).length = c.utf8Size + (encode text).length := by
  rw [encode_cons, List.length_append, String.length_utf8EncodeChar]

theorem length_encode_toList (text : String) : (encode text.toList).length = text.utf8ByteSize := by
  obtain ⟨chars, rfl⟩ : ∃ chars, text = String.ofList chars := ⟨text.toList, String.ofList_toList.symm⟩
  rw [String.toList_ofList]
  induction chars with
  | nil => rfl
  | cons c chars ih =>
      have hsplit : String.ofList (c :: chars) = String.singleton c ++ String.ofList chars := by
        apply String.toList_inj.mp
        rw [String.toList_append, String.toList_ofList, String.toList_ofList, String.toList_singleton,
          List.singleton_append]
      rw [length_encode_cons, ih, hsplit, String.utf8ByteSize_append, String.utf8ByteSize_singleton]

/-- The first byte of a character does not go on with one, and all others do. -/
theorem encodeChar_cases (c : Char) :
    ∃ first more, String.utf8EncodeChar c = first :: more ∧ isContinuation first = false ∧
      ∀ byte ∈ more, isContinuation byte = true := by
  have hvalid : c.toNat < 0xD800 ∨ 0xDFFF < c.toNat ∧ c.toNat < 0x110000 := c.valid
  have hval : c.val.toNat = c.toNat := rfl
  have hfirst (value : Nat) (hrange : value < 0x80 ∨ 0xC0 ≤ value ∧ value < 0x100) :
      isContinuation (UInt8.ofNat value) = false := by
    rw [← Bool.not_eq_true, isContinuation_iff, UInt8.toNat_ofNat']
    omega
  have hmore (value : Nat) : isContinuation (UInt8.ofNat (value % 0x40 + 0x80)) = true := by
    rw [isContinuation_iff, UInt8.toNat_ofNat']
    omega
  unfold String.utf8EncodeChar
  dsimp only
  rw [hval]
  by_cases hone : c.toNat ≤ 0x7f
  · rw [if_pos hone]
    exact ⟨_, _, rfl, hfirst _ (by omega), by simp⟩
  · rw [if_neg hone]
    by_cases htwo : c.toNat ≤ 0x7ff
    · rw [if_pos htwo]
      exact ⟨_, _, rfl, hfirst _ (by omega), by simp only [List.mem_cons, List.not_mem_nil, or_false, forall_eq, hmore]⟩
    · rw [if_neg htwo]
      by_cases hthree : c.toNat ≤ 0xffff
      · rw [if_pos hthree]
        exact ⟨_, _, rfl, hfirst _ (by omega), by simp only [List.mem_cons, List.not_mem_nil, or_false, forall_eq_or_imp,
        forall_eq, hmore, and_self]⟩
      · rw [if_neg hthree]
        exact ⟨_, _, rfl, hfirst _ (by omega), by simp only [List.mem_cons, List.not_mem_nil, or_false, forall_eq_or_imp,
        forall_eq, hmore, and_self]⟩

theorem isBoundary_zero (text : List Char) : IsBoundary text 0 := by
  intro byte hbyte
  cases text with
  | nil => cases hbyte
  | cons c text =>
      obtain ⟨first, more, hencode, hfirst, -⟩ := encodeChar_cases c
      rw [encode_cons, hencode, List.cons_append, List.getElem?_cons_zero] at hbyte
      rw [← Option.some.inj hbyte]
      exact hfirst

/-- Within the first character there is no boundary. -/
theorem not_isBoundary_of_lt {c : Char} {text : List Char} {offset : Nat} (hpos : 0 < offset)
    (hlt : offset < c.utf8Size) : ¬ IsBoundary (c :: text) offset := by
  intro hboundary
  obtain ⟨first, more, hencode, -, hmore⟩ := encodeChar_cases c
  obtain ⟨before, rfl⟩ : ∃ before, offset = before + 1 := ⟨offset - 1, by omega⟩
  have hlength : before < more.length := by
    rw [← String.length_utf8EncodeChar, hencode, List.length_cons] at hlt
    omega
  have hbyte : (encode (c :: text))[before + 1]? = some more[before] := by
    rw [encode_cons, hencode, List.cons_append, List.getElem?_cons_succ,
      List.getElem?_append_left hlength, List.getElem?_eq_getElem hlength]
  have hgoes : isContinuation more[before] = true := hmore _ (List.getElem_mem hlength)
  rw [hboundary _ hbyte] at hgoes
  cases hgoes

theorem isBoundary_cons_iff {c : Char} {text : List Char} {offset : Nat} (hle : c.utf8Size ≤ offset) :
    IsBoundary (c :: text) offset ↔ IsBoundary text (offset - c.utf8Size) := by
  have hshift : (encode (c :: text))[offset]? = (encode text)[offset - c.utf8Size]? := by
    rw [encode_cons, List.getElem?_append_right, String.length_utf8EncodeChar]
    rwa [String.length_utf8EncodeChar]
  unfold IsBoundary
  rw [hshift]

theorem sliceFrom_eq_some_iff {text rest : List Char} {start : Nat} :
    sliceFrom text start = some rest ↔ ∃ front, text = front ++ rest ∧ (encode front).length = start := by
  induction text generalizing start with
  | nil =>
      cases start with
      | zero =>
          constructor
          · intro hslice
            exact ⟨[], Option.some.inj hslice, rfl⟩
          · rintro ⟨front, htext, -⟩
            rw [(List.append_eq_nil_iff.mp htext.symm).2]
            rfl
      | succ start =>
          constructor
          · intro hslice
            cases hslice
          · rintro ⟨front, htext, hlength⟩
            rw [(List.append_eq_nil_iff.mp htext.symm).1] at hlength
            cases hlength
  | cons c text ih =>
      have hpos := c.utf8Size_pos
      have hcons (front : List Char) : (encode (c :: front)).length = c.utf8Size + (encode front).length :=
        length_encode_cons c front
      cases start with
      | zero =>
          constructor
          · intro hslice
            exact ⟨[], Option.some.inj hslice, rfl⟩
          · rintro ⟨front, htext, hlength⟩
            cases front with
            | nil => exact congrArg some htext
            | cons d front =>
                rw [length_encode_cons] at hlength
                have hd := d.utf8Size_pos
                omega
      | succ start =>
          rw [sliceFrom]
          constructor
          · intro hslice
            by_cases hfits : c.utf8Size ≤ start + 1
            · rw [if_pos hfits] at hslice
              obtain ⟨front, htext, hlength⟩ := ih.mp hslice
              refine ⟨c :: front, by rw [htext, List.cons_append], ?_⟩
              rw [hcons]
              omega
            · rw [if_neg hfits] at hslice
              cases hslice
          · rintro ⟨front, htext, hlength⟩
            cases front with
            | nil => cases hlength
            | cons d front =>
                rw [List.cons_append] at htext
                obtain ⟨rfl, hrest⟩ := List.cons.inj htext
                rw [hcons] at hlength
                rw [if_pos (by omega)]
                exact ih.mpr ⟨front, hrest, by omega⟩

theorem sliceFrom_isSome_iff {text : List Char} {start : Nat} (hstart : start ≤ (encode text).length) :
    (sliceFrom text start).isSome = true ↔ IsBoundary text start := by
  induction text generalizing start with
  | nil =>
      obtain rfl : start = 0 := Nat.le_zero.mp hstart
      exact ⟨fun _ => isBoundary_zero [], fun _ => rfl⟩
  | cons c text ih =>
      cases start with
      | zero => exact ⟨fun _ => isBoundary_zero (c :: text), fun _ => rfl⟩
      | succ start =>
          rw [length_encode_cons] at hstart
          rw [sliceFrom]
          by_cases hfits : c.utf8Size ≤ start + 1
          · rw [if_pos hfits, isBoundary_cons_iff hfits]
            exact ih (by omega)
          · rw [if_neg hfits]
            have hnot : ¬ IsBoundary (c :: text) (start + 1) :=
              not_isBoundary_of_lt (Nat.succ_pos start) (Nat.lt_of_not_le hfits)
            exact ⟨fun hnone => absurd hnone Bool.false_ne_true, fun hboundary => absurd hboundary hnot⟩

end Utf8

namespace Text

/-- `&text[start..]` -/
def sliceFrom (text : String) (start : Nat) : Option String :=
  (Utf8.sliceFrom text.toList start).map String.ofList

theorem sliceFrom_eq_some_iff {text rest : String} {start : Nat} :
    sliceFrom text start = some rest ↔ ∃ front, text = front ++ rest ∧ front.utf8ByteSize = start := by
  unfold sliceFrom
  rw [Option.map_eq_some_iff]
  constructor
  · rintro ⟨chars, hslice, rfl⟩
    obtain ⟨front, htext, hlength⟩ := Utf8.sliceFrom_eq_some_iff.mp hslice
    refine ⟨String.ofList front, ?_, ?_⟩
    · apply String.toList_inj.mp
      rw [htext, String.toList_append, String.toList_ofList, String.toList_ofList]
    · rw [← hlength, ← Utf8.length_encode_toList, String.toList_ofList]
  · rintro ⟨front, rfl, hlength⟩
    refine ⟨rest.toList, ?_, String.ofList_toList⟩
    apply Utf8.sliceFrom_eq_some_iff.mpr
    exact ⟨front.toList, String.toList_append, by rw [Utf8.length_encode_toList, hlength]⟩

end Text
