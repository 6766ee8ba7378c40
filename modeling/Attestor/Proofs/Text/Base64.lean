import Attestor.Text.Base64

namespace Attestor.Base64

theorem digit_digit {n : Nat} (small : n < 64) : digit? (digit n) = some n := by
  have all : ∀ n : Fin 64, digit? (digit n) = some n.val := by decide +kernel
  exact all ⟨n, small⟩

theorem digit_ne_padding {n : Nat} (small : n < 64) : digit n ≠ '=' := by
  have all : ∀ n : Fin 64, digit n ≠ '=' := by decide +kernel
  exact all ⟨n, small⟩

theorem byte_eq {n : Nat} {byte : UInt8} (same : n % 256 = byte.toNat) : UInt8.ofNat n = byte :=
  UInt8.toNat_inj.mp (by simpa using same)

theorem group_one (a : UInt8) :
    group? (digit (a.toNat * 16 / 64)) (digit (a.toNat * 16 % 64)) '=' '=' = some [a] := by
  have bound := a.toNat_lt
  have high : a.toNat * 16 / 64 < 64 := by omega
  have next : a.toNat * 16 % 64 < 64 := by omega
  have first : UInt8.ofNat (a.toNat * 16 / 64 * 4 + a.toNat * 16 % 64 / 16) = a :=
    byte_eq (by omega)
  simp only [group?, digit_digit high, digit_digit next, Option.bind_eq_bind, Option.bind_some,
    if_true, first]
  rfl

theorem group_two (a b : UInt8) :
    let n := (a.toNat * 256 + b.toNat) * 4
    group? (digit (n / 4096)) (digit (n / 64 % 64)) (digit (n % 64)) '=' = some [a, b] := by
  intro n
  have first := a.toNat_lt
  have second := b.toNat_lt
  have high : n / 4096 < 64 := by omega
  have next : n / 64 % 64 < 64 := by omega
  have third : n % 64 < 64 := by omega
  have head : UInt8.ofNat (n / 4096 * 4 + n / 64 % 64 / 16) = a := byte_eq (by omega)
  have tail : UInt8.ofNat (n / 64 % 64 * 16 + n % 64 / 4) = b := byte_eq (by omega)
  simp only [group?, digit_digit high, digit_digit next, digit_digit third,
    if_neg (digit_ne_padding third), Option.bind_eq_bind, Option.bind_some, if_true, head, tail]
  rfl

theorem group_three (a b c : UInt8) :
    let n := (a.toNat * 256 + b.toNat) * 256 + c.toNat
    group? (digit (n / 262144)) (digit (n / 4096 % 64)) (digit (n / 64 % 64)) (digit (n % 64)) =
      some [a, b, c] := by
  intro n
  have first := a.toNat_lt
  have second := b.toNat_lt
  have last := c.toNat_lt
  have high : n / 262144 < 64 := by omega
  have next : n / 4096 % 64 < 64 := by omega
  have third : n / 64 % 64 < 64 := by omega
  have fourth : n % 64 < 64 := by omega
  have head : UInt8.ofNat (n / 262144 * 4 + n / 4096 % 64 / 16) = a := byte_eq (by omega)
  have middle : UInt8.ofNat (n / 4096 % 64 * 16 + n / 64 % 64 / 4) = b := byte_eq (by omega)
  have tail : UInt8.ofNat (n / 64 % 64 * 64 + n % 64) = c := byte_eq (by omega)
  simp only [group?, digit_digit high, digit_digit next, digit_digit third, digit_digit fourth,
    if_neg (digit_ne_padding third), if_neg (digit_ne_padding fourth), Option.bind_eq_bind,
    Option.bind_some, head, middle, tail]
  rfl

theorem group_cases {a b c d : Char} {bytes : List UInt8} (group : group? a b c d = some bytes) :
    (digit? a).isSome ∧ (digit? b).isSome ∧ ((digit? c).isSome ∨ c = '=') ∧
      ((digit? d).isSome ∨ d = '=') := by
  simp only [group?, Option.bind_eq_bind, Option.bind_eq_some_iff] at group
  obtain ⟨high, first, next, second, later⟩ := group
  refine ⟨by rw [first]; rfl, by rw [second]; rfl, ?_⟩
  by_cases padded : c = '='
  · refine ⟨.inr padded, ?_⟩
    by_cases last : d = '='
    · exact .inr last
    · rw [if_pos padded, if_neg last] at later
      cases later
  · rw [if_neg padded, Option.bind_eq_some_iff] at later
    obtain ⟨third, written, rest⟩ := later
    refine ⟨.inl (by rw [written]; rfl), ?_⟩
    by_cases last : d = '='
    · exact .inr last
    · rw [if_neg last, Option.bind_eq_some_iff] at rest
      obtain ⟨fourth, found, _⟩ := rest
      exact .inl (by rw [found]; rfl)

theorem digit_ascii (n : Nat) : (digit n).toNat < 128 := by
  have all : alphabet.all (fun c => c.toNat < 128) = true := by decide
  rw [digit, List.getD_eq_getElem?_getD]
  cases found : alphabet[n]? with
  | none => decide
  | some c => simpa using List.all_eq_true.mp all c (List.mem_of_getElem? found)

theorem encode_ascii (bytes : List UInt8) : ∀ c ∈ encode bytes, c.toNat < 128 := by
  fun_induction encode bytes with
  | case1 => simp
  | case2 a n => simp [digit_ascii]
  | case3 a b n => simp [digit_ascii]
  | case4 a b c rest n ih => simpa [digit_ascii] using ih

theorem length_encode (bytes : List UInt8) : (encode bytes).length = 4 * ((bytes.length + 2) / 3) := by
  fun_induction encode bytes with
  | case1 => rfl
  | case2 a n => simp
  | case3 a b n => simp
  | case4 a b c rest n ih =>
    simp only [List.length_cons, ih]
    omega

theorem encode_append {count : Nat} {front rest : List UInt8} (whole : front.length = 3 * count) :
    encode (front ++ rest) = encode front ++ encode rest := by
  induction count generalizing front with
  | zero =>
    rw [List.length_eq_zero_iff.mp whole]
    rfl
  | succ count ih =>
    match front, whole with
    | a :: b :: c :: front, whole =>
      have shorter : front.length = 3 * count := by
        simp only [List.length_cons] at whole
        omega
      simp only [List.cons_append, encode, ih shorter]

end Attestor.Base64
