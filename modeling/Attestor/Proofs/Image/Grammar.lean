import Attestor.Image.Grammar
import Attestor.Proofs.Text.Segments

namespace Attestor.Image.Grammar

open Attestor.Text

def isPathCharacter (c : Char) : Bool :=
  isLower c || isNumeral c || c == '.' || c == '_' || c == '-'

theorem step_character {state next : PathState} {c : Char} (read : state.step c = some next) :
    isPathCharacter c = true := by
  unfold PathState.step at read
  split at read
  · rename_i plain
    simp [isPathCharacter, plain]
  · split at read
    all_goals first | rfl | cases read

theorem fold_characters {text : List Char} {state last : PathState}
    (read : text.foldlM PathState.step state = some last) :
    ∀ c ∈ text, isPathCharacter c = true := by
  induction text generalizing state with
  | nil => simp
  | cons c text ih =>
    rw [List.foldlM_cons] at read
    obtain ⟨next, step, later⟩ := Option.bind_eq_some_iff.mp read
    intro d member
    rcases List.mem_cons.mp member with rfl | tail
    · exact step_character step
    · exact ih later d tail

theorem path_characters {text : List Char} (component : isPathComponent text = true) :
    ∀ c ∈ text, isPathCharacter c = true :=
  fold_characters (beq_iff_eq.mp component)

theorem lower_iff {c : Char} : isLower c = true ↔ 97 ≤ c.val.toNat ∧ c.val.toNat ≤ 122 := by
  simp only [isLower, Bool.and_eq_true, decide_eq_true_eq, Char.le_def, UInt32.le_iff_toNat_le]
  rfl

theorem upper_iff {c : Char} : isUpper c = true ↔ 65 ≤ c.val.toNat ∧ c.val.toNat ≤ 90 := by
  simp only [isUpper, Bool.and_eq_true, decide_eq_true_eq, Char.le_def, UInt32.le_iff_toNat_le]
  rfl

theorem numeral_iff {c : Char} : isNumeral c = true ↔ 48 ≤ c.val.toNat ∧ c.val.toNat ≤ 57 := by
  simp only [isNumeral, Bool.and_eq_true, decide_eq_true_eq, Char.le_def, UInt32.le_iff_toNat_le]
  rfl

theorem upper_not_path {c : Char} (path : isPathCharacter c = true) : isUpper c = false := by
  refine Bool.eq_false_iff.mpr fun upper => ?_
  have bounds := upper_iff.mp upper
  simp only [isPathCharacter, Bool.or_eq_true, beq_iff_eq] at path
  rcases path with (((lower | numeral) | rfl) | rfl) | rfl
  · have other := lower_iff.mp lower
    omega
  · have other := numeral_iff.mp numeral
    omega
  all_goals cases upper

theorem fold_dashed {text : List Char} {state : PathState}
    (state_word : state = .word ∨ state = .dashes)
    (plain : ∀ c ∈ text, (isLower c || isNumeral c) = true ∨ c = '-')
    (last : text.getLast?.any (fun c => isLower c || isNumeral c) = true) :
    text.foldlM PathState.step state = some .word := by
  induction text generalizing state with
  | nil => cases last
  | cons c text ih =>
    rw [List.foldlM_cons]
    rcases plain c (List.mem_cons_self ..) with word | rfl
    · have step : state.step c = some .word := by simp only [PathState.step, if_pos word]
      cases text with
      | nil => simp [step]
      | cons d more =>
        rw [step, Option.bind_eq_bind, Option.bind_some]
        exact ih (.inl rfl) (fun e member => plain e (List.mem_cons_of_mem _ member))
          (by simpa using last)
    · cases text with
      | nil => cases last
      | cons d more =>
        have step : state.step '-' = some .dashes := by
          rcases state_word with rfl | rfl <;> rfl
        rw [step, Option.bind_eq_bind, Option.bind_some]
        exact ih (.inr rfl) (fun e member => plain e (List.mem_cons_of_mem _ member))
          (by simpa using last)

theorem label_characters {text : List Char} (label : isLabel text = true) :
    ∀ c ∈ text, isAlphanumeric c = true ∨ c = '-' := by
  simp only [isLabel, Bool.and_eq_true, List.all_eq_true, Bool.or_eq_true, beq_iff_eq] at label
  exact label.1.1

theorem host_characters {text : List Char} (host : isHost text = true) :
    ∀ c ∈ text, isAlphanumeric c = true ∨ c = '-' ∨ c = '.' ∨ c = ':' := by
  have labels (name : List Char) (good : (segments '.' name).all isLabel = true) :
      ∀ c ∈ name, isAlphanumeric c = true ∨ c = '-' ∨ c = '.' := by
    intro c member
    by_cases dot : c = '.'
    · exact .inr (.inr dot)
    · obtain ⟨piece, stands, inside⟩ := (mem_segments dot).mp member
      exact (label_characters (List.all_eq_true.mp good piece stands) c inside).imp_right .inl
  rcases cut_cases ':' text with ⟨_, whole⟩ | ⟨name, port, _, split, parts⟩
  · simp only [isHost, whole, Bool.and_eq_true] at host
    intro c member
    rcases labels text host.1 c member with letter | dash | dot
    · exact .inl letter
    · exact .inr (.inl dash)
    · exact .inr (.inr (.inl dot))
  · simp only [isHost, parts, Bool.and_eq_true, Option.all_some] at host
    obtain ⟨good, _, numerals⟩ := host
    intro c member
    rw [split] at member
    rcases List.mem_append.mp member with inName | rest
    · rcases labels name good c inName with letter | dash | dot
      · exact .inl letter
      · exact .inr (.inl dash)
      · exact .inr (.inr (.inl dot))
    · rcases List.mem_cons.mp rest with colon | inPort
      · exact .inr (.inr (.inr colon))
      · left
        simp [isAlphanumeric, List.all_eq_true.mp numerals c inPort]

theorem isName_single {text : List Char} (plain : '/' ∉ text) : isName text = isPathComponent text := by
  rw [isName, segments_plain plain]

theorem isName_append {first rest : List Char} (plain : '/' ∉ first) :
    isName (first ++ '/' :: rest) =
      ((isHost first || isPathComponent first) && (segments '/' rest).all isPathComponent) := by
  rw [isName, segments_append plain]
  cases others : segments '/' rest with
  | nil => exact absurd others (segments_ne_nil '/' rest)
  | cons second more => rfl

theorem host_label {text : List Char} (host : isHost text = true) (dots : '.' ∉ text)
    (port : ':' ∉ text) : isLabel text = true := by
  simpa [isHost, cut_plain port, segments_plain dots] using host

theorem label_component {text : List Char} (label : isLabel text = true)
    (lower : ∀ c ∈ text, isUpper c = false) : isPathComponent text = true := by
  have letters : ∀ c ∈ text, isAlphanumeric c = true → (isLower c || isNumeral c) = true := by
    intro c member alphanumeric
    simpa [isAlphanumeric, isLetter, lower c member] using alphanumeric
  have plain : ∀ c ∈ text, (isLower c || isNumeral c) = true ∨ c = '-' := by
    intro c member
    exact (label_characters label c member).imp_left (letters c member)
  simp only [isLabel, Bool.and_eq_true] at label
  obtain ⟨⟨_, head⟩, last⟩ := label
  cases text with
  | nil => cases head
  | cons c rest =>
    have first : (isLower c || isNumeral c) = true := letters c (by simp) (by simpa using head)
    have step : PathState.start.step c = some .word := by simp only [PathState.step, if_pos first]
    rw [isPathComponent, List.foldlM_cons, step, Option.bind_eq_bind, Option.bind_some]
    cases rest with
    | nil => rfl
    | cons d more =>
      rw [fold_dashed (.inl rfl) (fun e member => plain e (List.mem_cons_of_mem _ member))]
      · rfl
      · obtain ⟨e, ending, alphanumeric⟩ := (Option.any_eq_true ..).mp last
        have member : e ∈ c :: d :: more := List.mem_of_getLast? ending
        rw [List.getLast?_cons_cons] at ending
        rw [ending]
        exact letters e member alphanumeric

/-- A label or a path component is a path component unless it has an upper-case letter. -/
theorem component_iff {text : List Char} (part : isLabel text = true ∨ isPathComponent text = true) :
    isPathComponent text = true ↔ ∀ c ∈ text, isUpper c = false := by
  constructor
  · intro component c member
    exact upper_not_path (path_characters component c member)
  · intro lower
    rcases part with label | component
    · exact label_component label lower
    · exact component

end Attestor.Image.Grammar
