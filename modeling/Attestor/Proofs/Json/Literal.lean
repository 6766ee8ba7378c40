import Attestor.Json.Token
import Attestor.Json.Writer
import Attestor.Proofs.Text.Hex

namespace Attestor.Json

def markOf (c : Char) : Mark :=
  if c.toNat < 0x20 ∧ c ∉ ['\x08', '\t', '\n', '\x0c', '\r'] then .unit c.toNat else .char c

theorem control_code {code : Nat} (control : code < 0x20) :
    Hex.toNat? ['0', '0', Hex.digit (code / 16), Hex.digit (code % 16)] = some code := by
  have zero : Hex.digit? '0' = some 0 := by decide
  simp only [Hex.toNat?, List.foldlM_cons, List.foldlM_nil, zero,
    Hex.digit_value _ (by omega : code / 16 < 16), Hex.digit_value _ (by omega : code % 16 < 16),
    Option.map_some, Option.bind_eq_bind, Option.bind_some]
  simp only [Option.pure_def, Option.some.injEq]
  omega

theorem marks_plain {c : Char} (rest : List Piece) (quote : c ≠ '"') (backslash : c ≠ '\\')
    (printable : ¬ c.toNat < 0x20) :
    marks? (.char c :: rest) = (marks? rest).map fun (marks, rest) => (.char c :: marks, rest) := by
  rw [marks?.eq_def]
  split
  · rename_i impossible
    cases impossible
  · rename_i same
    simp_all
  · rename_i same
    simp_all
  · rename_i same
    simp_all
  · rename_i same
    cases same
    simp only [backslash, printable, or_self, ↓reduceIte]
    cases marks? rest <;> rfl
  · rename_i impossible
    simp at impossible

theorem marks_escape {letter c : Char} (rest : List Piece) (found : escape? letter = some c)
    (short : letter ≠ 'u') :
    marks? (.char '\\' :: .char letter :: rest) =
      (marks? rest).map fun (marks, rest) => (.char c :: marks, rest) := by
  rw [marks?.eq_def]
  split
  · rename_i impossible
    cases impossible
  · rename_i same
    cases same
  · rename_i same
    cases same
    exact absurd rfl short
  · rename_i same
    cases same
    simp only [found, Option.bind_eq_bind, Option.bind_some]
    cases marks? rest <;> rfl
  · rename_i other same
    cases same
    exact (other _ _ rfl rfl).elim
  · rename_i impossible
    cases impossible

theorem marks_escaped (c : Char) (rest : List Piece) :
    marks? ((escaped c).map .char ++ rest) =
      (marks? rest).map fun (marks, rest) => (markOf c :: marks, rest) := by
  by_cases quote : c = '"'
  · subst quote
    exact marks_escape rest rfl (by decide)
  by_cases backslash : c = '\\'
  · subst backslash
    exact marks_escape rest rfl (by decide)
  by_cases named : c ∈ ['\x08', '\t', '\n', '\x0c', '\r']
  · simp only [List.mem_cons, List.not_mem_nil, or_false] at named
    rcases named with rfl | rfl | rfl | rfl | rfl
    all_goals exact marks_escape rest rfl (by decide)
  have others := named
  simp only [List.mem_cons, List.not_mem_nil, or_false, not_or] at others
  obtain ⟨notB, notT, notN, notF, notR⟩ := others
  by_cases control : c.toNat < 0x20
  · simp only [escaped, quote, backslash, notB, notT, notN, notF, notR, control, ↓reduceIte,
      List.map_cons, List.map_nil, List.cons_append, List.nil_append, marks?, control_code control,
      markOf, named, not_false_eq_true, and_self, Option.bind_eq_bind, Option.bind_some]
    cases marks? rest <;> rfl
  · simp only [escaped, quote, backslash, notB, notT, notN, notF, notR, control, ↓reduceIte,
      List.map_cons, List.map_nil, List.cons_append, List.nil_append, markOf, false_and]
    exact marks_plain rest quote backslash control

theorem marks_text (characters : List Char) (rest : List Piece) :
    marks? ((characters.flatMap escaped).map .char ++ .char '"' :: rest) =
      some (characters.map markOf, rest) := by
  induction characters with
  | nil => rfl
  | cons c characters ih =>
    rw [List.flatMap_cons, List.map_append, List.append_assoc, marks_escaped, ih]
    rfl

theorem spell_unit {code : Nat} (marks : List Mark) (control : code < 0x20) :
    spell? (.unit code :: marks) = (spell? marks).map (Char.ofNat code :: ·) := by
  have high : isHighSurrogate code = false := by
    simp only [isHighSurrogate, Bool.and_eq_false_iff, decide_eq_false_iff_not]
    omega
  have low : isLowSurrogate code = false := by
    simp only [isLowSurrogate, Bool.and_eq_false_iff, decide_eq_false_iff_not]
    omega
  rw [spell?.eq_def]
  split
  · rename_i impossible
    cases impossible
  · rename_i impossible
    cases impossible
  · rename_i impossible
    cases impossible
  · rename_i same
    cases same
    simp only [high, low, Bool.false_eq_true, ↓reduceIte]
  · rename_i same
    cases same
    simp only [high, low, Bool.or_self, Bool.false_eq_true, ↓reduceIte]

theorem spell_text (characters : List Char) : spell? (characters.map markOf) = some characters := by
  induction characters with
  | nil => rfl
  | cons c characters ih =>
    rw [List.map_cons, markOf]
    split
    · rename_i control
      rw [spell_unit _ control.1, ih, Char.ofNat_toNat]
      rfl
    · simp only [spell?, ih, Option.map_some]

theorem stringLiteral_literal (text : Text) :
    ∃ inside, literal text = '"' :: inside ∧
      ∀ rest, stringLiteral? (inside.map .char ++ rest) = some (text, rest) := by
  cases text with
  | none => exact ⟨_, rfl, fun rest => rfl⟩
  | some text =>
    refine ⟨text.toList.flatMap escaped ++ ['"'], rfl, fun rest => ?_⟩
    simp only [stringLiteral?, List.map_append, List.map_cons, List.map_nil, List.append_assoc,
      List.cons_append, List.nil_append, marks_text, spell_text, Option.map_some,
      String.ofList_toList]

end Attestor.Json
