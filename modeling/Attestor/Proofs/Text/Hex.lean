import Attestor.Text.Hex
import Attestor.Proofs.Octets

namespace Attestor.Hex

theorem digit_value : ∀ n < 16, digit? (digit n) = some n := by decide

theorem upper_digit_value : ∀ n < 16, digit? (digit n).toUpper = some n := by decide

structure Numeral (digits : List Char) : Prop where
  lower : ∀ c ∈ digits, c ∈ "0123456789abcdef".toList
  spoken : digits ≠ []
  leading : digits.head? = some '0' → digits = ['0']

theorem digit_lower : ∀ n < 16, digit n ∈ "0123456789abcdef".toList := by decide

theorem digit_zero : ∀ n < 16, digit n = '0' → n = 0 := by decide

theorem ofNat_small {n : Nat} (small : n < 16) : ofNat n = [digit n] := by
  rw [ofNat, if_pos small]

theorem ofNat_large {n : Nat} (large : ¬ n < 16) :
    ofNat n = ofNat (n / 16) ++ [digit (n % 16)] := by
  rw [ofNat, if_neg large]

theorem ofNat_zero : ofNat 0 = ['0'] := ofNat_small (by decide)

theorem lower_ofNat (n : Nat) : ∀ c ∈ ofNat n, c ∈ "0123456789abcdef".toList := by
  induction n using ofNat.induct with
  | case1 n small =>
    rw [ofNat_small small]
    intro c member
    rw [List.mem_singleton.mp member]
    exact digit_lower n small
  | case2 n large ih =>
    rw [ofNat_large large]
    intro c member
    rcases List.mem_append.mp member with front | last
    · exact ih c front
    · rw [List.mem_singleton.mp last]
      exact digit_lower _ (Nat.mod_lt n (by decide))

theorem ofNat_cons (n : Nat) : ∃ c rest, ofNat n = c :: rest ∧ (c = '0' → n = 0) := by
  induction n using ofNat.induct with
  | case1 n small => exact ⟨digit n, [], ofNat_small small, digit_zero n small⟩
  | case2 n large ih =>
    obtain ⟨c, rest, front, zero⟩ := ih
    refine ⟨c, rest ++ [digit (n % 16)], ?_, ?_⟩
    · rw [ofNat_large large, front, List.cons_append]
    · intro same
      have none := zero same
      omega

theorem numeral_ofNat (n : Nat) : Numeral (ofNat n) := by
  obtain ⟨c, rest, front, zero⟩ := ofNat_cons n
  refine ⟨lower_ofNat n, ?_, ?_⟩
  · rw [front]
    exact List.cons_ne_nil c rest
  · intro leading
    rw [front, List.head?_cons, Option.some.injEq] at leading
    rw [zero leading, ofNat_zero]

theorem toNat_concat {digits : List Char} {c : Char} {n last : Nat} (read : toNat? digits = some n)
    (value : digit? c = some last) : toNat? (digits ++ [c]) = some (16 * n + last) := by
  rw [toNat?] at read ⊢
  simp [List.foldlM_append, read, value]

theorem toNat_ofNat (n : Nat) : toNat? (ofNat n) = some n := by
  induction n using ofNat.induct with
  | case1 n small =>
    rw [ofNat_small small]
    simp [toNat?, digit_value n small]
  | case2 n large ih =>
    rw [ofNat_large large, toNat_concat ih (digit_value _ (Nat.mod_lt n (by decide))),
      Nat.div_add_mod]

example : ofNat 0x0a70 = ['a', '7', '0'] := by cbv

theorem ofNat_inj {n m : Nat} : ofNat n = ofNat m ↔ n = m := by
  constructor
  · intro same
    have read := toNat_ofNat n
    rw [same, toNat_ofNat] at read
    exact (Option.some.inj read).symm
  · intro same
    rw [same]

theorem upper_cons (byte : UInt8) (bytes : List UInt8) :
    upper (byte :: bytes) =
      (digit (byte.toNat / 16)).toUpper :: (digit (byte.toNat % 16)).toUpper :: upper bytes := rfl

theorem length_upper (bytes : List UInt8) : (upper bytes).length = 2 * bytes.length := by
  induction bytes with
  | nil => rfl
  | cons byte bytes ih =>
    rw [upper_cons, List.length_cons, List.length_cons, List.length_cons, ih]
    omega

theorem drop_upper (count : Nat) (bytes : List UInt8) :
    (upper bytes).drop (2 * count) = upper (bytes.drop count) := by
  induction count generalizing bytes with
  | zero => rfl
  | succ count ih =>
    cases bytes with
    | nil => rfl
    | cons byte bytes =>
      rw [upper_cons, Nat.mul_add_one, List.drop_succ_cons, List.drop_succ_cons, ih]
      rfl

theorem take_upper (count : Nat) (bytes : List UInt8) :
    (upper bytes).take (2 * count) = upper (bytes.take count) := by
  induction count generalizing bytes with
  | zero => rfl
  | succ count ih =>
    cases bytes with
    | nil => rfl
    | cons byte bytes =>
      rw [upper_cons, Nat.mul_add_one, List.take_succ_cons, List.take_succ_cons, ih]
      rfl

theorem foldlM_upper (bytes : List UInt8) (start : Nat) :
    (upper bytes).foldlM (fun n c => (digit? c).map (16 * n + ·)) start =
      some (bytes.foldl (fun n byte => 256 * n + byte.toNat) start) := by
  induction bytes generalizing start with
  | nil => rfl
  | cons byte bytes ih =>
    have bound := byte.toNat_lt
    have high : byte.toNat / 16 < 16 := by omega
    have low : byte.toNat % 16 < 16 := Nat.mod_lt _ (by decide)
    have joined : 16 * (16 * start + byte.toNat / 16) + byte.toNat % 16 = 256 * start + byte.toNat := by
      omega
    rw [upper_cons, List.foldlM_cons, upper_digit_value _ high, Option.map_some, Option.bind_eq_bind,
      Option.bind_some, List.foldlM_cons, upper_digit_value _ low, Option.map_some,
      Option.bind_eq_bind, Option.bind_some, joined, ih, List.foldl_cons]

theorem toNat_upper (bytes : List UInt8) : toNat? (upper bytes) = some (Hash.ofBigEndian bytes) :=
  foldlM_upper bytes 0

theorem isDigit_iff {c : Char} : isDigit c = true ↔ c ∈ "0123456789abcdefABCDEF".toList := by
  have ascii : ∀ n < 128, isDigit (Char.ofNat n) = true →
      Char.ofNat n ∈ "0123456789abcdefABCDEF".toList := by
    decide
  have listed : "0123456789abcdefABCDEF".toList.all isDigit = true := by decide
  constructor
  · intro hexadecimal
    have small : c.toNat < 128 := by
      refine Decidable.by_contra fun large => ?_
      have beyond (last : Char) (early : last.toNat < 128) : ¬ c ≤ last :=
        fun within => large (Nat.lt_of_le_of_lt within early)
      simp [isDigit, digit?, beyond '9' (by decide), beyond 'f' (by decide),
        beyond 'F' (by decide)] at hexadecimal
    rw [← Char.ofNat_toNat c] at hexadecimal ⊢
    exact ascii c.toNat small hexadecimal
  · exact List.all_eq_true.mp listed c

theorem decode_isSome {digits : List Char} (hexadecimal : ∀ c ∈ digits, isDigit c = true)
    (even : digits.length % 2 = 0) : (decode? digits).isSome = true := by
  induction digits using decode?.induct with
  | case1 => rfl
  | case2 c => simp at even
  | case3 high low rest ih =>
    obtain ⟨h, first⟩ := Option.isSome_iff_exists.mp (hexadecimal high (by simp))
    obtain ⟨l, second⟩ := Option.isSome_iff_exists.mp (hexadecimal low (by simp))
    have others : ∀ c ∈ rest, isDigit c = true := by
      intro c member
      exact hexadecimal c (by simp [member])
    have less : rest.length % 2 = 0 := by
      rw [List.length_cons, List.length_cons] at even
      omega
    obtain ⟨bytes, read⟩ := Option.isSome_iff_exists.mp (ih others less)
    simp [decode?, first, second, read]

end Attestor.Hex
