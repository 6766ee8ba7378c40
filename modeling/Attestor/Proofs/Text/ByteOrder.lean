import Attestor.Proofs.Text.Utf8
import Mathlib.Tactic.SplitIfs

namespace Attestor.Text

theorem byte_cons_lt {first second : Nat} {rest others : List UInt8} (small : second < 256)
    (atMost : first ≤ second) (later : first = second → rest < others) :
    UInt8.ofNat first :: rest < UInt8.ofNat second :: others := by
  rw [List.cons_lt_cons_iff, UInt8.lt_iff_toNat_lt, byte_toNat small, byte_toNat (by omega)]
  rcases Nat.lt_or_eq_of_le atMost with less | rfl
  · exact .inl less
  · exact .inr ⟨rfl, later rfl⟩

theorem encodeChar_lt {c d : Char} (less : c < d) (rest others : List UInt8) :
    String.utf8EncodeChar c ++ rest < String.utf8EncodeChar d ++ others := by
  have codes : c.val.toNat < d.val.toNat := less
  have bound : d.val.toNat < 0x110000 := by
    rcases d.valid with low | ⟨_, high⟩
    · omega
    · exact high
  simp only [String.utf8EncodeChar]
  -- More bytes start with a greater one; as many differ first in the highest place that differs.
  split
  · split_ifs
    all_goals exact byte_cons_lt (by omega) (by omega) (by omega)
  · split
    · split_ifs
      · omega
      · refine byte_cons_lt (by omega) (by omega) fun high => ?_
        exact byte_cons_lt (by omega) (by omega) (by omega)
      all_goals exact byte_cons_lt (by omega) (by omega) (by omega)
    · split
      · split_ifs
        · omega
        · omega
        · refine byte_cons_lt (by omega) (by omega) fun high => ?_
          refine byte_cons_lt (by omega) (by omega) fun middle => ?_
          exact byte_cons_lt (by omega) (by omega) (by omega)
        · exact byte_cons_lt (by omega) (by omega) (by omega)
      · split_ifs
        · omega
        · omega
        · omega
        · refine byte_cons_lt (by omega) (by omega) fun high => ?_
          refine byte_cons_lt (by omega) (by omega) fun second => ?_
          refine byte_cons_lt (by omega) (by omega) fun third => ?_
          exact byte_cons_lt (by omega) (by omega) (by omega)

theorem spelled_lt {chars others : List Char} (less : List.Lex (· < ·) chars others) :
    chars.flatMap String.utf8EncodeChar < others.flatMap String.utf8EncodeChar := by
  induction less with
  | @nil first rest =>
    rw [List.flatMap_cons]
    cases spelled : String.utf8EncodeChar first with
    | nil => exact absurd spelled String.utf8EncodeChar_ne_nil
    | cons => exact List.nil_lt_cons ..
  | rel less => exact encodeChar_lt less ..
  | cons _ ih => exact List.append_left_lt ih

theorem encode_lt {text other : String} (less : text < other) : encode text < encode other := by
  rw [encode_eq_flatMap, encode_eq_flatMap]
  exact spelled_lt (String.lt_iff.mp less)

theorem encode_le_iff {text other : String} : encode text ≤ encode other ↔ text ≤ other := by
  constructor
  · intro atMost
    refine String.not_lt.mp fun above => ?_
    exact List.not_lt.mpr atMost (encode_lt above)
  · intro atMost
    refine List.not_lt.mp fun above => ?_
    by_cases same : text = other
    · subst same
      exact List.lt_irrefl _ above
    · have less : text < other := String.not_le.mp fun below => same (String.le_antisymm atMost below)
      exact List.lt_asymm above (encode_lt less)

end Attestor.Text
