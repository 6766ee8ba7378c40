import Attestor.Text.Utf8

namespace Attestor.Text

theorem byte_toNat {n : Nat} (small : n < 256) : (UInt8.ofNat n).toNat = n := by
  simp [Nat.mod_eq_of_lt small]

theorem charFrom_code (c : Char) {least : Nat} (large : least ≤ c.val.toNat) :
    charFrom? least c.val.toNat = some c := by
  have valid : c.val.toNat.isValidChar := c.valid
  rw [charFrom?, if_pos large, dif_pos valid]
  rfl

theorem continuation_low {n : Nat} (small : n < 0x40) :
    continuation? (UInt8.ofNat (n + 0x80)) = some n := by
  have byte : n + 0x80 < 256 := by omega
  rw [continuation?, byte_toNat byte, if_pos (by omega), Nat.add_sub_cancel]

theorem leading_one {code : Nat} (rest : List UInt8) (small : code < 0x80) :
    leading? (UInt8.ofNat code) rest = (charFrom? 0 code).map (·, 0) := by
  have byte : code < 256 := by omega
  simp only [leading?.eq_def, byte_toNat byte, if_pos small]

theorem leading_two {first second : Nat} (rest : List UInt8) (small : first < 0x20)
    (low : second < 0x40) :
    leading? (UInt8.ofNat (first + 0xC0)) (UInt8.ofNat (second + 0x80) :: rest) =
      (charFrom? 0x80 (first * 64 + second)).map (·, 1) := by
  have byte : first + 0xC0 < 256 := by omega
  simp only [leading?.eq_def, byte_toNat byte, continuation_low low, Nat.add_sub_cancel,
    Option.bind_eq_bind, Option.bind_some]
  rw [if_neg (by omega), if_neg (by omega), if_pos (by omega)]
  cases charFrom? 0x80 (first * 64 + second) <;> rfl

theorem leading_three {first second third : Nat} (rest : List UInt8) (small : first < 0x10)
    (middle : second < 0x40) (low : third < 0x40) :
    leading? (UInt8.ofNat (first + 0xE0))
        (UInt8.ofNat (second + 0x80) :: UInt8.ofNat (third + 0x80) :: rest) =
      (charFrom? 0x800 ((first * 64 + second) * 64 + third)).map (·, 2) := by
  have byte : first + 0xE0 < 256 := by omega
  simp only [leading?.eq_def, byte_toNat byte, continuation_low middle, continuation_low low,
    Nat.add_sub_cancel, Option.bind_eq_bind, Option.bind_some]
  rw [if_neg (by omega), if_neg (by omega), if_neg (by omega), if_pos (by omega)]
  cases charFrom? 0x800 ((first * 64 + second) * 64 + third) <;> rfl

theorem leading_four {first second third fourth : Nat} (rest : List UInt8) (small : first < 0x08)
    (high : second < 0x40) (middle : third < 0x40) (low : fourth < 0x40) :
    leading? (UInt8.ofNat (first + 0xF0))
        (UInt8.ofNat (second + 0x80) :: UInt8.ofNat (third + 0x80) ::
          UInt8.ofNat (fourth + 0x80) :: rest) =
      (charFrom? 0x10000 (((first * 64 + second) * 64 + third) * 64 + fourth)).map (·, 3) := by
  have byte : first + 0xF0 < 256 := by omega
  simp only [leading?.eq_def, byte_toNat byte, continuation_low high, continuation_low middle,
    continuation_low low, Nat.add_sub_cancel, Option.bind_eq_bind, Option.bind_some]
  rw [if_neg (by omega), if_neg (by omega), if_neg (by omega), if_neg (by omega),
    if_pos (by omega)]
  cases charFrom? 0x10000 (((first * 64 + second) * 64 + third) * 64 + fourth) <;> rfl

theorem pieces_encodeChar (c : Char) (rest : List UInt8) :
    piecesAfter 0 (String.utf8EncodeChar c ++ rest) = .char c :: piecesAfter 0 rest := by
  have bound : c.val.toNat < 0x110000 := by
    rcases c.valid with low | ⟨_, high⟩
    · omega
    · exact high
  simp only [String.utf8EncodeChar]
  split
  · rename_i one
    simp only [List.cons_append, List.nil_append, piecesAfter]
    rw [leading_one rest (by omega), charFrom_code c (Nat.zero_le _)]
    rfl
  · split
    · rename_i two
      simp only [List.cons_append, List.nil_append, piecesAfter]
      rw [leading_two rest (by omega) (by omega)]
      have whole : c.val.toNat / 64 % 32 * 64 + c.val.toNat % 64 = c.val.toNat := by omega
      rw [whole, charFrom_code c (by omega)]
      rfl
    · split
      · rename_i three
        simp only [List.cons_append, List.nil_append, piecesAfter]
        rw [leading_three rest (by omega) (by omega) (by omega)]
        have whole : (c.val.toNat / 4096 % 16 * 64 + c.val.toNat / 64 % 64) * 64 +
            c.val.toNat % 64 = c.val.toNat := by omega
        rw [whole, charFrom_code c (by omega)]
        rfl
      · rename_i four
        simp only [List.cons_append, List.nil_append, piecesAfter]
        rw [leading_four rest (by omega) (by omega) (by omega) (by omega)]
        have whole : ((c.val.toNat / 262144 % 8 * 64 + c.val.toNat / 4096 % 64) * 64 +
            c.val.toNat / 64 % 64) * 64 + c.val.toNat % 64 = c.val.toNat := by omega
        rw [whole, charFrom_code c (by omega)]
        rfl

theorem encode_eq_flatMap (text : String) :
    encode text = text.toList.flatMap String.utf8EncodeChar := by
  rw [encode, String.toUTF8_eq_toByteArray, ← String.utf8Encode_toList]
  exact List.toList_data_toByteArray

theorem pieces_encode (text : String) : pieces (encode text) = ofString text := by
  rw [encode_eq_flatMap, ofString, pieces]
  induction text.toList with
  | nil => rfl
  | cons c rest ih => rw [List.flatMap_cons, pieces_encodeChar, ih, List.map_cons]

end Attestor.Text
