import Attestor.Proofs.Settings.Leaves
import Attestor.Settings.Environment

namespace Attestor.Settings.Environment

open Settings.Tree

def scalar? (word : String) : Option Tree :=
  if Text.lower word = "true" then some (.bool true)
  else if Text.lower word = "false" then some (.bool false)
  else
    match Number.integer? word.toList with
    | some n => some (.integer n)
    | none => (Number.float? word.toList).map .float

def pieces (word : String) : List String :=
  (Text.segments ',' word.toList).map String.ofList

def respelled (word : String) : String :=
  ((scalar? word).bind Tree.text?).getD word

theorem value_eq (key word : String) :
    value key word = (scalar? word).getD
      (if listKeys.contains key then .list ((pieces word).map .text) else .text word) := by
  unfold value scalar? pieces
  split
  · rfl
  · split
    · rfl
    · cases Number.integer? word.toList with
      | some n => rfl
      | none =>
        cases Number.float? word.toList with
        | some x => rfl
        | none =>
          rw [List.map_map]
          rfl

theorem scalar_spec {word : String} {tree : Tree} (read : scalar? word = some tree) :
    tree.texts? = none ∧ ∃ spelled, tree.text? = some spelled := by
  unfold scalar? at read
  split at read
  · cases read
    exact ⟨rfl, _, rfl⟩
  · split at read
    · cases read
      exact ⟨rfl, _, rfl⟩
    · split at read
      · cases read
        exact ⟨rfl, _, rfl⟩
      · obtain ⟨x, _, rfl⟩ := Option.map_eq_some_iff.mp read
        exact ⟨rfl, _, rfl⟩

theorem texts_ofTexts (texts : List String) : (Tree.list (texts.map .text)).texts? = some texts := by
  simp only [Tree.texts?]
  induction texts with
  | nil => rfl
  | cons first rest ih => simp [List.mapM_cons, ih, Tree.text?]

/-- A list is made of a text if and only if the text reads as no other value. -/
theorem texts_value {key : String} (listed : listKeys.contains key = true) (word : String) :
    (value key word).texts? = if (scalar? word).isSome then none else some (pieces word) := by
  rw [value_eq, listed]
  cases read : scalar? word with
  | some tree => exact (scalar_spec read).1
  | none => exact texts_ofTexts (pieces word)

theorem optionalText_value {key : String} (single : listKeys.contains key = false) (word : String) :
    Leaf.optionalText? (value key word) = some (some (respelled word)) := by
  rw [value_eq, single, respelled]
  cases read : scalar? word with
  | none => rfl
  | some tree =>
    obtain ⟨_, spelled, made⟩ := scalar_spec read
    have present : Leaf.optionalText? tree = tree.text?.map some := by
      cases tree with
      | absent => cases made
      | _ => rfl
    simp [present, made]

end Attestor.Settings.Environment
