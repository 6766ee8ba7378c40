import Attestor.Proofs.Associations
import Attestor.Settings.Path

namespace Attestor.Settings.Tree

open Associations

def at? : Tree → List String → Option Tree
  | tree, [] => some tree
  | tree, name :: path => (tree.members.lookup name).bind (at? · path)

def branches? : Option Tree → Option (List (String × Tree))
  | none => some []
  | some (table members) => some members
  | _ => none

theorem branches_eq_some {own : Option Tree} {members : List (String × Tree)} :
    branches? own = some members ↔ own = none ∧ members = [] ∨ own = some (table members) := by
  cases own with
  | none => simp [branches?, eq_comm]
  | some tree => cases tree <;> simp [branches?]

theorem lookup_replace (name other : String) (value : Tree) (members : List (String × Tree)) :
    (replace name value members).lookup other =
      if other = name then some value else members.lookup other := by
  induction members with
  | nil => simp only [replace, lookup_cons_ite, List.lookup_nil]
  | cons first rest ih =>
    obtain ⟨head, old⟩ := first
    unfold replace
    split
    · rename_i same
      subst same
      simp only [lookup_cons_ite]
      split <;> rfl
    · rename_i different
      simp only [lookup_cons_ite, ih]
      by_cases here : other = head
      · subst here
        simp [different]
      · simp [here]

theorem lookup_putMember (tree : Tree) (name other : String) (value : Tree) :
    (tree.putMember name value).members.lookup other =
      if other = name then some value else tree.members.lookup other :=
  lookup_replace name other value tree.members

def IsPlain : Tree → Prop
  | bool _ | integer _ | float _ | text _ => True
  | _ => False

/-- `full` is what stands where `preset` stood once a layer was put on it that has `own` by itself. A
preset plain value stays where the layer has nothing, or a table with nothing in it. -/
inductive Covers : Option Tree → Option Tree → Option Tree → Prop
  | same (preset own : Option Tree) : Covers preset own own
  | kept {preset : Tree} {own : Option Tree} (plain : preset.IsPlain) (bare : branches? own = some []) :
      Covers (some preset) own (some preset)
  | tables {presets members full : List (String × Tree)} {own : Option Tree}
      (branches : branches? own = some members)
      (inside : ∀ name, Covers (presets.lookup name) (members.lookup name) (full.lookup name)) :
      Covers (some (table presets)) own (some (table full))

theorem Covers.bare {presets : List (String × Tree)} {own : Option Tree}
    (each : ∀ entry ∈ presets, Covers (some entry.2) none (some entry.2))
    (branches : branches? own = some []) :
    Covers (some (table presets)) own (some (table presets)) := by
  refine .tables branches fun name => ?_
  cases found : presets.lookup name with
  | none => exact .same _ _
  | some tree => exact each _ (mem_of_lookup found)

theorem branches_members {own : Option Tree} {members : List (String × Tree)}
    (branches : branches? own = some members) :
    (own.getD absent).members = members ∧ (own.getD absent).items = [] := by
  rcases branches_eq_some.mp branches with ⟨rfl, rfl⟩ | rfl
  · exact ⟨rfl, rfl⟩
  · exact ⟨rfl, rfl⟩

theorem IsPlain.members {tree : Tree} (plain : tree.IsPlain) : tree.members = [] ∧ tree.items = [] := by
  cases tree with
  | bool | integer | float | text => exact ⟨rfl, rfl⟩
  | absent | list | table => exact plain.elim

theorem putMember_congr {tree other : Tree} (members : tree.members = other.members) (name : String)
    (value : Tree) : tree.putMember name value = other.putMember name value := by
  simp only [putMember, members]

theorem member_congr {tree other : Tree} (members : tree.members = other.members) (name : String) :
    tree.member name = other.member name := by
  simp only [member, members]

theorem merge_table_of_branches {own : Option Tree} {members : List (String × Tree)}
    (branches : branches? own = some members) (values : List (String × Tree)) :
    (own.getD absent).merge (table values) = mergeMembers (table members) values := by
  rcases branches_eq_some.mp branches with ⟨rfl, rfl⟩ | rfl
  · rfl
  · rfl

theorem IsPlain.merge_table {tree : Tree} (plain : tree.IsPlain) (values : List (String × Tree)) :
    tree.merge (table values) = mergeMembers tree values := by
  cases tree with
  | bool | integer | float | text => rfl
  | absent | list | table => exact plain.elim

theorem IsPlain.mergeMembers_cons {tree : Tree} (plain : tree.IsPlain) (name : String) (value : Tree)
    (rest : List (String × Tree)) :
    mergeMembers tree ((name, value) :: rest) = mergeMembers (table []) ((name, value) :: rest) := by
  have bare : tree.members = (table []).members := plain.members.1
  simp only [mergeMembers, putMember_congr bare, member_congr bare]

mutual

/-- A value that is put on the layer by itself and on the whole leaves the one covering the preset as the
other. The induction is on the value, since a table may name a key more than once. -/
theorem Covers.merged {preset own full : Option Tree} (covers : Covers preset own full) (value : Tree) :
    Covers preset (some ((own.getD absent).merge value)) (some ((full.getD absent).merge value)) := by
  match value with
  | .absent | .bool _ | .integer _ | .float _ | .text _ | .list _ => exact .same _ _
  | .table values =>
    cases covers with
    | same => exact .same _ _
    | kept plain bare =>
      rw [merge_table_of_branches bare, Option.getD_some, plain.merge_table]
      cases values with
      | nil => exact .kept plain rfl
      | cons first rest =>
        rw [plain.mergeMembers_cons]
        exact .same _ _
    | @tables presets members full own branches inside =>
      obtain ⟨later, whole, one, other, inside⟩ := inside_merged inside values
      rw [merge_table_of_branches branches, merge_table_of_branches rfl, one, other]
      exact .tables rfl inside

theorem inside_merged {presets members full : List (String × Tree)}
    (inside : ∀ name, Covers (presets.lookup name) (members.lookup name) (full.lookup name))
    (values : List (String × Tree)) :
    ∃ later whole, mergeMembers (table members) values = table later ∧
      mergeMembers (table full) values = table whole ∧
      ∀ name, Covers (presets.lookup name) (later.lookup name) (whole.lookup name) := by
  match values with
  | [] => exact ⟨members, full, rfl, rfl, inside⟩
  | (name, value) :: rest =>
    refine inside_merged ?_ rest
    intro other
    rw [lookup_replace, lookup_replace]
    split
    · rename_i here
      subst here
      exact (inside _).merged value
    · exact inside other

end

theorem change_congr {tree other : Tree} (f : Tree → Tree) (step : Step) (steps : List Step)
    (members : tree.members = other.members) (items : tree.items = other.items) :
    change f (step :: steps) tree = change f (step :: steps) other := by
  cases step with
  | member name => simp only [change, putMember_congr members, member_congr members]
  | item index => simp only [change, items]

theorem Covers.changed {f : Tree → Tree}
    (keeps : ∀ preset own full, Covers preset own full →
      Covers preset (some (f (own.getD absent))) (some (f (full.getD absent))))
    (steps : List Step) {preset own full : Option Tree} (covers : Covers preset own full) :
    Covers preset (some (change f steps (own.getD absent)))
      (some (change f steps (full.getD absent))) := by
  induction steps generalizing preset own full with
  | nil => exact keeps preset own full covers
  | cons step rest ih =>
    cases covers with
    | same => exact .same _ _
    | @kept preset own plain bare =>
      obtain ⟨members, items⟩ := branches_members bare
      have alike : change f (step :: rest) (own.getD absent) = change f (step :: rest) preset :=
        change_congr f step rest (members.trans plain.members.1.symm) (items.trans plain.members.2.symm)
      rw [alike]
      exact .same _ _
    | @tables presets members full own branches inside =>
      obtain ⟨ownMembers, items⟩ := branches_members branches
      cases step with
      | item index =>
        have alike : change f (.item index :: rest) (own.getD absent) =
            change f (.item index :: rest) (table full) := by
          simp only [change, items]
          rfl
        rw [alike]
        exact .same _ _
      | member name =>
        refine .tables rfl ?_
        intro other
        rw [lookup_replace, lookup_replace, ownMembers]
        split
        · rename_i here
          subst here
          simp only [member, ownMembers]
          exact ih (inside _)
        · exact inside other

/-- Entries that are put on presets cover them as they do what they make by themselves. -/
theorem Covers.entered {preset own full : Tree} (covers : Covers (some preset) (some own) (some full))
    (entries : List (String × Tree)) :
    Covers (some preset) (some (own.setAll entries)) (some (full.setAll entries)) := by
  induction entries generalizing own full with
  | nil => exact covers
  | cons entry rest ih =>
    obtain ⟨key, value⟩ := entry
    exact ih (covers.changed (fun _ _ _ inner => inner.merged value) (Step.ofKey key))

theorem branches_at {own : Option Tree} {members : List (String × Tree)}
    (branches : branches? own = some members) (name : String) (path : List String) :
    own.bind (·.at? (name :: path)) = (members.lookup name).bind (·.at? path) := by
  rcases branches_eq_some.mp branches with ⟨rfl, rfl⟩ | rfl
  · rfl
  · rfl

theorem Covers.found {preset own full : Option Tree} (covers : Covers preset own full)
    (path : List String) :
    Covers (preset.bind (·.at? path)) (own.bind (·.at? path)) (full.bind (·.at? path)) := by
  induction path generalizing preset own full with
  | nil => simpa [at?] using covers
  | cons name rest ih =>
    cases covers with
    | same => exact .same _ _
    | @kept preset own plain bare =>
      have nothing : (some preset).bind (·.at? (name :: rest)) = none := by
        simp [at?, plain.members.1]
      rw [branches_at bare, nothing]
      exact .same _ _
    | tables branches inside =>
      rw [branches_at branches]
      exact ih (inside name)

/-- What stands at a path with nothing or a plain value preset: the layer's own, or else the preset. -/
theorem Covers.value {preset own full : Option Tree} (covers : Covers preset own full)
    (plain : ∀ tree, preset = some tree → tree.IsPlain) :
    full = own ∨ branches? own = some [] ∧ preset.isSome ∧ full = preset := by
  cases covers with
  | same => exact .inl rfl
  | kept _ bare => exact .inr ⟨bare, rfl, rfl⟩
  | tables => exact (plain _ rfl).elim

theorem Covers.branches {preset own full : Option Tree} (covers : Covers preset own full)
    (bare : ∀ tree, preset = some tree → ¬ tree.IsPlain) (open_ : (branches? own).isSome) :
    (branches? full).isSome := by
  cases covers with
  | same => exact open_
  | kept plain => exact absurd plain (bare _ rfl)
  | tables => rfl

theorem name_member {key rest : List Char} {step : Step} (read : Step.name? key = some (step, rest)) :
    ∃ name, step = .member name := by
  simp only [Step.name?] at read
  split at read
  · cases read
  · cases read
    exact ⟨_, rfl⟩

theorem ofKey_member (key : String) : ∃ name steps, Step.ofKey key = .member name :: steps := by
  have alone : ∃ name steps, [Step.member key] = .member name :: steps := ⟨key, [], rfl⟩
  unfold Step.ofKey
  cases first : Step.name? key.toList with
  | none => exact alone
  | some found =>
    obtain ⟨step, rest⟩ := found
    obtain ⟨name, rfl⟩ := name_member first
    cases later : Step.rest? rest.length rest with
    | none => simp [later]
    | some steps => simp [later]

theorem setAll_table (members entries : List (String × Tree)) :
    ∃ later, (table members).setAll entries = table later := by
  induction entries generalizing members with
  | nil => exact ⟨members, rfl⟩
  | cons entry rest ih =>
    obtain ⟨key, value⟩ := entry
    obtain ⟨name, steps, shape⟩ := ofKey_member key
    have first : ∃ middle, (table members).set key value = table middle := by
      unfold set
      rw [shape]
      exact ⟨_, rfl⟩
    obtain ⟨middle, made⟩ := first
    have later : (table members).setAll ((key, value) :: rest) =
        ((table members).set key value).setAll rest := rfl
    rw [later, made]
    exact ih middle

section

variable {path other : List String}

def IsLower (path : List String) : Prop :=
  ∀ name ∈ path, Text.lower name = name

theorem change_names (f : Tree → Tree) (name : String) (rest : List String) (tree : Tree)
    (lower : Text.lower name = name) :
    change f ((name :: rest).map .member) tree =
      tree.putMember name (change f (rest.map .member) (tree.member name)) := by
  simp only [List.map_cons, change, lower]

theorem at_change (f : Tree → Tree) (lower : IsLower path) (tree : Tree) :
    (change f (path.map .member) tree).at? path = some (f ((tree.at? path).getD absent)) := by
  induction path generalizing tree with
  | nil => rfl
  | cons name rest ih =>
    obtain ⟨first, later⟩ := List.forall_mem_cons.mp lower
    rw [change_names f name rest tree first, at?, lookup_putMember, if_pos rfl, Option.bind_some,
      ih later, at?]
    congr 2
    unfold member
    cases tree.members.lookup name with
    | some inner => rfl
    | none => cases rest <;> rfl

/-- A change at one path leaves every path alone that neither leads through it nor is led through. -/
theorem at_change_of_apart (f : Tree → Tree) (lower : IsLower path) (apart : ¬ path <+: other)
    (beside : ¬ other <+: path) (tree : Tree) :
    (change f (path.map .member) tree).at? other = tree.at? other := by
  induction path generalizing other tree with
  | nil => exact absurd List.nil_prefix apart
  | cons name rest ih =>
    cases other with
    | nil => exact absurd List.nil_prefix beside
    | cons first others =>
      obtain ⟨now, later⟩ := List.forall_mem_cons.mp lower
      rw [change_names f name rest tree now, at?, lookup_putMember, at?]
      by_cases here : first = name
      · subst here
        rw [List.cons_prefix_cons] at apart beside
        simp only [true_and] at apart beside
        rw [if_pos rfl, Option.bind_some, ih later apart beside]
        unfold member
        cases tree.members.lookup first with
        | some inner => rfl
        | none =>
          cases others with
          | nil => exact absurd List.nil_prefix beside
          | cons => rfl
      · rw [if_neg here]

end

end Attestor.Settings.Tree
