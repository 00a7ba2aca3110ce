import Bookmarks.Text.Utf8

/-!
Text as bytes and back: the glyphs of the bytes of a text are its characters.
-/
set_option autoImplicit false

namespace Bookmarks.Text

theorem byte_list_loop (array : ByteArray) (index : Nat) (done : List UInt8) :
    ByteArray.toList.loop array index done = done.reverse ++ array.data.toList.drop index := by
  fun_induction ByteArray.toList.loop array index done with
  | case1 index done below ih =>
      have inside : index < array.data.toList.length := by simpa using below
      rw [ih, List.drop_eq_getElem_cons inside]
      simp [ByteArray.get!, below]
  | case2 index done behind =>
      have outside : array.data.toList.length ≤ index := by simpa using behind
      rw [List.drop_of_length_le outside, List.append_nil]

-- A text takes the bytes of its characters, one after another.
theorem bytes_eq (text : String) : bytes text = text.toList.flatMap String.utf8EncodeChar := by
  have encoded : (text.toList.flatMap String.utf8EncodeChar).toByteArray = text.toUTF8 := String.utf8Encode_toList
  rw [bytes, ← encoded, ByteArray.toList, byte_list_loop]
  simp

theorem continuation_tail (n : Nat) : isContinuation (UInt8.ofNat (n % 64 + 128)) = true := by
  simp only [isContinuation, Bool.and_eq_true, decide_eq_true_eq, UInt8.le_iff_toNat_le, UInt8.toNat_ofNat']
  constructor
  · show 128 ≤ _
    omega
  · show _ ≤ 191
    omega

theorem character_of_code {c : Char} {lead least : Nat} {tail : List UInt8}
    (continued : tail.all isContinuation = true) (code : codePoint lead tail = c.toNat) (needed : least ≤ c.toNat) :
    character? lead least tail = some c := by
  have valid : Nat.isValidChar c.toNat := c.valid
  simp only [character?, continued, code, needed, valid, decide_true, Bool.and_self, if_true, Char.ofNat_toNat]

section

variable {first : UInt8} (b c d : UInt8) (rest : List UInt8)

theorem first_of_one (single : first.toNat < 0x80) : firstCharacter? first rest = some (Char.ofNat first.toNat, 0) := by
  have low : first < 0x80 := UInt8.lt_iff_toNat_lt.mpr single
  simp only [firstCharacter?, if_pos low]

theorem first_of_two (low : 0xc2 ≤ first.toNat) (high : first.toNat ≤ 0xdf) :
    firstCharacter? first (b :: rest) = (character? (first.toNat - 0xc0) 0x80 [b]).map fun c => (c, 1) := by
  have notOne : ¬ first < 0x80 := by
    rw [UInt8.lt_iff_toNat_lt]
    exact Nat.not_lt.mpr (Nat.le_trans (by decide) low)
  have lead : 0xc2 ≤ first ∧ first ≤ 0xdf := ⟨UInt8.le_iff_toNat_le.mpr low, UInt8.le_iff_toNat_le.mpr high⟩
  simp [firstCharacter?, notOne, lead]

theorem first_of_three (low : 0xe0 ≤ first.toNat) (high : first.toNat ≤ 0xef) :
    firstCharacter? first (b :: c :: rest) = (character? (first.toNat - 0xe0) 0x800 [b, c]).map fun c => (c, 2) := by
  have notOne : ¬ first < 0x80 := by
    rw [UInt8.lt_iff_toNat_lt]
    exact Nat.not_lt.mpr (Nat.le_trans (by decide) low)
  have notTwo : ¬ first ≤ 0xdf := by
    rw [UInt8.le_iff_toNat_le]
    exact Nat.not_le.mpr (Nat.lt_of_lt_of_le (by decide) low)
  have lead : 0xe0 ≤ first ∧ first ≤ 0xef := ⟨UInt8.le_iff_toNat_le.mpr low, UInt8.le_iff_toNat_le.mpr high⟩
  have enough : ¬ rest.length + 1 + 1 < 2 := by omega
  simp [firstCharacter?, notOne, notTwo, lead, enough]

theorem first_of_four (low : 0xf0 ≤ first.toNat) (high : first.toNat ≤ 0xf4) :
    firstCharacter? first (b :: c :: d :: rest) =
      (character? (first.toNat - 0xf0) 0x10000 [b, c, d]).map fun c => (c, 3) := by
  have notOne : ¬ first < 0x80 := by
    rw [UInt8.lt_iff_toNat_lt]
    exact Nat.not_lt.mpr (Nat.le_trans (by decide) low)
  have notTwo : ¬ first ≤ 0xdf := by
    rw [UInt8.le_iff_toNat_le]
    exact Nat.not_le.mpr (Nat.lt_of_lt_of_le (by decide) low)
  have notThree : ¬ first ≤ 0xef := by
    rw [UInt8.le_iff_toNat_le]
    exact Nat.not_le.mpr (Nat.lt_of_lt_of_le (by decide) low)
  have lead : 0xf0 ≤ first ∧ first ≤ 0xf4 := ⟨UInt8.le_iff_toNat_le.mpr low, UInt8.le_iff_toNat_le.mpr high⟩
  have enough : ¬ rest.length + 1 + 1 + 1 < 3 := by omega
  simp [firstCharacter?, notOne, notTwo, notThree, lead, enough]

end

theorem code_point_cons (lead : Nat) (n : Nat) (tail : List UInt8) :
    codePoint lead (UInt8.ofNat (n % 64 + 128) :: tail) = codePoint (64 * lead + n % 64) tail := by
  have byte : (UInt8.ofNat (n % 64 + 128)).toNat = n % 64 + 128 := by
    rw [UInt8.toNat_ofNat']
    omega
  rw [codePoint, List.foldl_cons, byte, Nat.add_sub_cancel, codePoint]

-- The first byte of a character tells how many others there are.
theorem first_character_encoded (c : Char) (rest : List UInt8) :
    ∃ first further, String.utf8EncodeChar c = first :: further ∧
      firstCharacter? first (further ++ rest) = some (c, further.length) := by
  have code : c.val.toNat = c.toNat := rfl
  have valid : c.toNat < 0xd800 ∨ 0xdfff < c.toNat ∧ c.toNat < 0x110000 := c.valid
  unfold String.utf8EncodeChar
  rw [code]
  by_cases one : c.toNat ≤ 127
  · refine ⟨_, [], if_pos one, ?_⟩
    have byte : (UInt8.ofNat c.toNat).toNat = c.toNat := by
      rw [UInt8.toNat_ofNat']
      omega
    rw [first_of_one _ (by omega), byte, Char.ofNat_toNat]
    rfl
  · rw [if_neg one]
    by_cases two : c.toNat ≤ 2047
    · refine ⟨_, _, if_pos two, ?_⟩
      have byte : (UInt8.ofNat (c.toNat / 64 % 32 + 192)).toNat = c.toNat / 64 + 192 := by
        rw [UInt8.toNat_ofNat']
        omega
      have read : character? (c.toNat / 64) 0x80 [UInt8.ofNat (c.toNat % 64 + 128)] = some c := by
        refine character_of_code ?_ ?_ (by omega)
        · rw [List.all_cons, continuation_tail]
          rfl
        · rw [code_point_cons, codePoint, List.foldl_nil]
          omega
      rw [List.singleton_append, first_of_two _ _ (by omega) (by omega), byte, Nat.add_sub_cancel, read]
      rfl
    · rw [if_neg two]
      by_cases three : c.toNat ≤ 65535
      · refine ⟨_, _, if_pos three, ?_⟩
        have byte : (UInt8.ofNat (c.toNat / 4096 % 16 + 224)).toNat = c.toNat / 4096 + 224 := by
          rw [UInt8.toNat_ofNat']
          omega
        have read : character? (c.toNat / 4096) 0x800
            [UInt8.ofNat (c.toNat / 64 % 64 + 128), UInt8.ofNat (c.toNat % 64 + 128)] = some c := by
          refine character_of_code ?_ ?_ (by omega)
          · rw [List.all_cons, List.all_cons, continuation_tail, continuation_tail]
            rfl
          · rw [code_point_cons, code_point_cons, codePoint, List.foldl_nil]
            omega
        rw [List.cons_append, List.singleton_append, first_of_three _ _ _ (by omega) (by omega), byte,
          Nat.add_sub_cancel, read]
        rfl
      · refine ⟨_, _, if_neg three, ?_⟩
        have byte : (UInt8.ofNat (c.toNat / 262144 % 8 + 240)).toNat = c.toNat / 262144 + 240 := by
          rw [UInt8.toNat_ofNat']
          omega
        have read : character? (c.toNat / 262144) 0x10000 [UInt8.ofNat (c.toNat / 4096 % 64 + 128),
            UInt8.ofNat (c.toNat / 64 % 64 + 128), UInt8.ofNat (c.toNat % 64 + 128)] = some c := by
          refine character_of_code ?_ ?_ (by omega)
          · rw [List.all_cons, List.all_cons, List.all_cons, continuation_tail, continuation_tail, continuation_tail]
            rfl
          · rw [code_point_cons, code_point_cons, code_point_cons, codePoint, List.foldl_nil]
            omega
        rw [List.cons_append, List.cons_append, List.singleton_append, first_of_four _ _ _ _ (by omega) (by omega),
          byte, Nat.add_sub_cancel, read]
        rfl

theorem glyphs_encoded (c : Char) (rest : List UInt8) :
    glyphs (String.utf8EncodeChar c ++ rest) = some c :: glyphs rest := by
  obtain ⟨first, further, shape, read⟩ := first_character_encoded c rest
  rw [shape, List.cons_append, glyphs, read]
  simp

theorem glyphs_flat_map (chars : List Char) (rest : List UInt8) :
    glyphs (chars.flatMap String.utf8EncodeChar ++ rest) = chars.map some ++ glyphs rest := by
  induction chars with
  | nil => rfl
  | cons first chars ih => rw [List.flatMap_cons, List.append_assoc, glyphs_encoded, ih, List.map_cons, List.cons_append]

theorem glyphs_bytes (text : String) : glyphs (bytes text) = glyphsOf text := by
  have whole := glyphs_flat_map text.toList []
  rw [List.append_nil] at whole
  rw [bytes_eq, whole, glyphs, List.append_nil, glyphsOf]

end Bookmarks.Text
