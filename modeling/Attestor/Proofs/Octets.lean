import Attestor.Octets

namespace Attestor

namespace Hash

theorem bigEndian_succ (count n : Nat) :
    bigEndian (count + 1) n = UInt8.ofNat (n / Nat.pow 256 count) :: bigEndian count n := by
  simp only [bigEndian, List.range_succ, List.reverse_append, List.reverse_singleton,
    List.singleton_append, List.map_cons]

@[simp] theorem length_bigEndian (count n : Nat) : (bigEndian count n).length = count := by
  simp [bigEndian]

theorem foldl_bigEndian (count n start : Nat) :
    (bigEndian count n).foldl (fun n byte => 256 * n + byte.toNat) start =
      Nat.pow 256 count * start + n % Nat.pow 256 count := by
  induction count generalizing start with
  | zero => simp [bigEndian, Nat.mod_one]
  | succ count ih =>
    have byte : (UInt8.ofNat (n / Nat.pow 256 count)).toNat = n / Nat.pow 256 count % 256 := by
      simp
    have digits : n % Nat.pow 256 (count + 1) =
        n % Nat.pow 256 count + Nat.pow 256 count * (n / Nat.pow 256 count % 256) :=
      Nat.mod_pow_succ
    have size : Nat.pow 256 (count + 1) = Nat.pow 256 count * 256 := rfl
    rw [bigEndian_succ, List.foldl_cons, ih, byte, digits, size, Nat.mul_add, Nat.mul_assoc]
    omega

theorem ofBigEndian_bigEndian {count n : Nat} (small : n < Nat.pow 256 count) :
    ofBigEndian (bigEndian count n) = n := by
  rw [ofBigEndian, foldl_bigEndian, Nat.mod_eq_of_lt small, Nat.mul_zero, Nat.zero_add]

theorem foldl_ofBigEndian (bytes : List UInt8) (start : Nat) :
    bytes.foldl (fun n byte => 256 * n + byte.toNat) start =
      Nat.pow 256 bytes.length * start + ofBigEndian bytes := by
  rw [ofBigEndian]
  induction bytes generalizing start with
  | nil => simp
  | cons byte bytes ih =>
    have size : Nat.pow 256 (byte :: bytes).length = Nat.pow 256 bytes.length * 256 := rfl
    rw [List.foldl_cons, List.foldl_cons, ih, ih (256 * 0 + byte.toNat), size, Nat.mul_zero,
      Nat.zero_add, Nat.mul_add, Nat.mul_assoc, Nat.add_assoc]

theorem ofBigEndian_cons (byte : UInt8) (bytes : List UInt8) :
    ofBigEndian (byte :: bytes) =
      Nat.pow 256 bytes.length * byte.toNat + ofBigEndian bytes := by
  rw [← foldl_ofBigEndian, ofBigEndian, List.foldl_cons, Nat.mul_zero, Nat.zero_add]

theorem ofBigEndian_lt (bytes : List UInt8) : ofBigEndian bytes < Nat.pow 256 bytes.length := by
  induction bytes with
  | nil => decide
  | cons byte bytes ih =>
    have step : Nat.pow 256 bytes.length * (byte.toNat + 1) ≤ Nat.pow 256 bytes.length * 256 :=
      Nat.mul_le_mul_left _ byte.toNat_lt
    have size : Nat.pow 256 (byte :: bytes).length = Nat.pow 256 bytes.length * 256 := rfl
    rw [ofBigEndian_cons, size]
    rw [Nat.mul_add_one] at step
    omega

theorem ofBigEndian_inj {bytes others : List UInt8} (sized : bytes.length = others.length) :
    ofBigEndian bytes = ofBigEndian others ↔ bytes = others := by
  constructor
  · intro same
    induction bytes generalizing others with
    | nil => exact (List.length_eq_zero_iff.mp sized.symm).symm
    | cons byte bytes ih =>
      cases others with
      | nil => cases sized
      | cons other others =>
        have sized : bytes.length = others.length := Nat.succ.inj sized
        have rest := ofBigEndian_lt bytes
        have last := ofBigEndian_lt others
        rw [← sized] at last
        have positive : 0 < Nat.pow 256 bytes.length := Nat.zero_lt_of_lt rest
        rw [ofBigEndian_cons, ofBigEndian_cons, ← sized] at same
        have first := congrArg (· / Nat.pow 256 bytes.length) same
        simp only [Nat.mul_add_div positive, Nat.div_eq_of_lt rest, Nat.div_eq_of_lt last,
          Nat.add_zero] at first
        rw [first] at same
        rw [UInt8.toNat_inj.mp first, ih sized (Nat.add_left_cancel same)]
  · intro same
    rw [same]

end Hash

namespace Octets

open Hash

theorem split_iff {count : Nat} {bytes front rest : List UInt8} :
    split? count bytes = some (front, rest) ↔ front.length = count ∧ front ++ rest = bytes := by
  rw [split?]
  constructor
  · intro taken
    split at taken
    · cases taken
    · rename_i long
      cases taken
      exact ⟨List.length_take_of_le (Nat.le_of_not_lt long), List.take_append_drop count bytes⟩
  · rintro ⟨rfl, rfl⟩
    have long : ¬ (front ++ rest).length < front.length := by
      rw [List.length_append]
      omega
    rw [if_neg long, List.take_left, List.drop_left]

theorem split_append (front rest : List UInt8) :
    split? front.length (front ++ rest) = some (front, rest) :=
  split_iff.mpr ⟨rfl, rfl⟩

theorem split_more {count : Nat} {bytes front rest : List UInt8}
    (taken : split? count bytes = some (front, rest)) (more : List UInt8) :
    split? count (bytes ++ more) = some (front, rest ++ more) := by
  obtain ⟨size, rfl⟩ := split_iff.mp taken
  exact split_iff.mpr ⟨size, (List.append_assoc ..).symm⟩

theorem number_more {count n : Nat} {bytes rest : List UInt8}
    (taken : number? count bytes = some (n, rest)) (more : List UInt8) :
    number? count (bytes ++ more) = some (n, rest ++ more) := by
  obtain ⟨⟨front, _⟩, split, made⟩ := Option.map_eq_some_iff.mp taken
  cases made
  rw [number?, split_more split more]
  rfl

theorem number_bigEndian {count n : Nat} (rest : List UInt8) (small : n < Nat.pow 256 count) :
    number? count (bigEndian count n ++ rest) = some (n, rest) := by
  have split := split_append (bigEndian count n) rest
  rw [length_bigEndian] at split
  simp only [number?, split, Option.map_some, ofBigEndian_bigEndian small]

theorem number_byte {n : Nat} (rest : List UInt8) (small : n < 256) :
    number? 1 (UInt8.ofNat n :: rest) = some (n, rest) := by
  have one : bigEndian 1 n = [UInt8.ofNat n] := by simp [bigEndian]
  have read : number? 1 (bigEndian 1 n ++ rest) = some (n, rest) :=
    number_bigEndian rest (by simpa using small)
  rwa [one] at read

theorem exactly_bigEndian {count n : Nat} (small : n < Nat.pow 256 count) :
    exactly? count (bigEndian count n) = some n := by
  rw [exactly?, if_pos (length_bigEndian count n), ofBigEndian_bigEndian small]

end Octets

end Attestor
