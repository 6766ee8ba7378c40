import Attestor.Proofs.Image.Canonical
import Attestor.Proofs.Text.Hex
import Mathlib.Data.String.Basic

namespace Attestor

open Text

theorem Text.utf8ByteSize_ofList {text : List Char} (ascii : ∀ c ∈ text, c.val.toNat < 128) :
    (String.ofList text).utf8ByteSize = text.length := by
  rw [String.utf8ByteSize_ofList]
  induction text with
  | nil => rfl
  | cons c text ih =>
    have one : c.utf8Size = 1 := if_pos (Nat.le_of_lt_succ (ascii c (List.mem_cons_self ..)))
    rw [String.utf8Len_cons, one, ih fun d member => ascii d (List.mem_cons_of_mem _ member),
      List.length_cons]

namespace Image

open Grammar

theorem alphanumeric_ascii {c : Char} (letter : isAlphanumeric c = true) : c.val.toNat < 128 := by
  simp only [isAlphanumeric, isLetter, Bool.or_eq_true, lower_iff, upper_iff, numeral_iff] at letter
  omega

theorem path_ascii {c : Char} (path : isPathCharacter c = true) : c.val.toNat < 128 := by
  simp only [isPathCharacter, Bool.or_eq_true, beq_iff_eq, lower_iff, numeral_iff] at path
  rcases path with (((lower | numeral) | rfl) | rfl) | rfl
  · omega
  · omega
  all_goals decide

def algorithms : List (String × Nat) :=
  [("sha256", 64), ("sha384", 96), ("sha512", 128)]

theorem digestLength_eq_some {algorithm : List Char} {length : Nat}
    (known : digestLength? algorithm = some length) :
    (String.ofList algorithm, length) ∈ algorithms := by
  rw [digestLength?] at known
  split_ifs at known with short medium long
  all_goals cases known
  · simp [algorithms, short]
  · simp [algorithms, medium]
  · simp [algorithms, long]

theorem digest_complete {digest : List Char} (written : isDigest digest = true)
    (sound : digestFlaw? digest = none) :
    ∃ algorithm length digits, (String.ofList algorithm, length) ∈ algorithms ∧
      ':' ∉ algorithm ∧ digest = algorithm ++ ':' :: digits ∧ digits.length = length ∧
      ∀ c ∈ digits, Hex.isDigit c = true := by
  rcases cut_cases ':' digest with ⟨_, whole⟩ | ⟨algorithm, digits, plain, split, parts⟩
  · rw [isDigest, whole] at written
    cases written
  · simp only [isDigest, parts, Bool.and_eq_true, List.all_eq_true] at written
    rw [digestFlaw?, parts] at sound
    cases known : digestLength? algorithm with
    | none =>
      simp only [known] at sound
      cases sound
    | some length =>
      have full : digits.length = length := by simpa [known] using sound
      exact ⟨algorithm, length, digits, digestLength_eq_some known, plain, split, full, written.2⟩

theorem even_length : ∀ entry ∈ algorithms, entry.2 % 2 = 0 ∧ entry.2 ≠ 0 := by decide

theorem hasBytes_of_flawless {digest : List Char} (written : isDigest digest = true)
    (sound : digestFlaw? digest = none) : hasBytes digest = true := by
  obtain ⟨algorithm, length, digits, known, plain, rfl, full, hexadecimal⟩ :=
    digest_complete written sound
  obtain ⟨even, some⟩ := even_length _ known
  have spoken : digits.isEmpty = false := by
    rw [List.isEmpty_eq_false_iff_exists_mem, ← List.length_pos_iff_exists_mem, full]
    exact Nat.pos_of_ne_zero some
  rw [hasBytes, cut_append plain]
  simp [spoken, Hex.decode_isSome hexadecimal (full ▸ even)]

namespace Location.Settled

variable {location : Location}

theorem repository_ne_nil (settled : location.Settled) : location.repository ≠ [] := by
  intro empty
  have part := settled.parts [] (by simp [empty, segments])
  rcases part with label | component
  · cases label
  · cases component

theorem repository_bytes (settled : location.Settled) :
    (String.ofList location.repository).utf8ByteSize = location.repository.length := by
  refine utf8ByteSize_ofList fun c member => ?_
  by_cases slash : c = '/'
  · rw [slash]
    decide
  · rcases settled.repository_characters member slash with letter | path
    · exact alphanumeric_ascii letter
    · exact path_ascii path

theorem registry_iff (settled : location.Settled) :
    String.ofList location.registry = "localhost" ∨ '.' ∈ location.registry ∨
      ':' ∈ location.registry := by
  have registry := settled.registry
  simp only [isRegistry, Bool.or_eq_true, List.contains_iff_mem, beq_iff_eq] at registry
  rcases registry with (dot | colon) | named
  · exact .inr (.inl dot)
  · exact .inr (.inr colon)
  · exact .inl (by rw [named]; rfl)

end Location.Settled

end Image

namespace ImageReference

open Image Grammar

structure WellFormed (image : ImageReference) : Prop where
  digest : ∃ algorithm length digits, (algorithm, length) ∈ algorithms ∧
    image.digest = algorithm ++ ":" ++ String.ofList digits ∧ digits.length = length ∧
    ∀ c ∈ digits, c ∈ "0123456789abcdefABCDEF".toList
  plain : '@' ∉ image.name.toList
  name : ∃ registry path, image.name = registry ++ "/" ++ path ∧ '/' ∉ registry.toList ∧
    (registry = "localhost" ∨ '.' ∈ registry.toList ∨ ':' ∈ registry.toList) ∧
    path ≠ "" ∧ path.utf8ByteSize ≤ 255

theorem Settled.wellFormed {image : ImageReference} (settled : image.Settled) : image.WellFormed := by
  cases settled with
  | parts location digest settled short written sound bytes =>
    constructor
    · obtain ⟨algorithm, length, digits, known, _, rfl, full, hexadecimal⟩ :=
        digest_complete written sound
      refine ⟨_, length, digits, known, ?_, full, fun c member => ?_⟩
      · simp [String.ofList_append, String.append_assoc]
      · exact Hex.isDigit_iff.mp (hexadecimal c member)
    · rw [String.toList_ofList]
      exact settled.front_plain
    · refine ⟨String.ofList location.registry, String.ofList location.repository, ?_, ?_, ?_, ?_, ?_⟩
      · simp [String.ofList_append, String.append_assoc]
      · rw [String.toList_ofList]
        exact settled.plain
      · rw [String.toList_ofList]
        exact settled.registry_iff
      · simpa using settled.repository_ne_nil
      · rw [settled.repository_bytes]
        exact short

/-- No text is refused for the digits of its digest, and what is read is well formed: the digest has a
known algorithm with all of its digits, and the name a registry with a path. -/
theorem parse_wellFormed (text : String) :
    (∀ reference digest, parse text ≠ .error (.malformedDigest reference digest)) ∧
    ∀ image, parse text = .ok image → image.WellFormed := by
  constructor
  · intro reference digest refused
    rw [parse] at refused
    split at refused
    · cases refused
    · cases refused
    · rename_i location digits read
      obtain ⟨_, _, written, sound⟩ := readReference_ok read
      rw [if_pos (hasBytes_of_flawless written sound)] at refused
      cases refused
  · intro image read
    exact (parse_settled read).wellFormed

/-- A digest in upper case, on a registry without a dot. -/
theorem parse_wellFormed_localhost :
    let image : ImageReference := {
      name := "localhost/app"
      digest := "sha256:73D506A23331FCE5CB6F49BFB4C27450D2EF4878EFCE89F03A46B27372A88430" }
    parse "localhost/app:1.0@sha256:73D506A23331FCE5CB6F49BFB4C27450D2EF4878EFCE89F03A46B27372A88430" =
      .ok image ∧ image.WellFormed := by
  intro image
  have read : parse
      "localhost/app:1.0@sha256:73D506A23331FCE5CB6F49BFB4C27450D2EF4878EFCE89F03A46B27372A88430" =
        .ok image :=
    isReadFrom_iff.mp (by decide +kernel)
  exact ⟨read, (parse_wellFormed _).2 image read⟩

end ImageReference

end Attestor
