import Attestor.Proofs.Settings.Documents
import Attestor.Proofs.Settings.Leaves

namespace Attestor.Settings

open Associations Settings.Tree

theorem builtIn_eq : builtIn =
    table [("checks", table [("dry_run", .bool false)]), ("snakeoil", table [("fail_on", .text "high")])] := by
  have dryRun : Step.ofKey "checks.dry_run" = [.member "checks", .member "dry_run"] := by
    decide +kernel
  have failOn : Step.ofKey "snakeoil.fail_on" = [.member "snakeoil", .member "fail_on"] := by
    decide +kernel
  have lower : Text.lower "checks" = "checks" ∧ Text.lower "dry_run" = "dry_run" ∧
      Text.lower "snakeoil" = "snakeoil" ∧ Text.lower "fail_on" = "fail_on" := by
    decide +kernel
  simp [builtIn, setAll, Tree.set, dryRun, failOn, change, lower, putMember, replace, member, members,
    merge, lookup_cons_ite]

namespace Leaf

def all : List Leaf :=
  [enabled, required, dryRun, keyringPath, validRepos, orgUrls, builders, projects, failOn,
    metadataPath, repositoryPath, attestationsPath]

theorem mem_all (leaf : Leaf) : leaf ∈ all := by
  cases leaf <;> decide

theorem ofKey_key (leaf : Leaf) : Step.ofKey leaf.key = leaf.path.map .member := by
  cases leaf <;> decide +kernel

theorem isLower_path (leaf : Leaf) : IsLower leaf.path := by
  unfold IsLower
  cases leaf <;> decide +kernel

theorem path_apart {leaf other : Leaf} (different : leaf ≠ other) : ¬ leaf.path <+: other.path := by
  have each : ∀ leaf ∈ all, ∀ other ∈ all, leaf ≠ other → ¬ leaf.path <+: other.path := by decide
  exact each leaf leaf.mem_all other other.mem_all different

theorem key_injective {leaf other : Leaf} (same : leaf.key = other.key) : leaf = other := by
  by_cases different : leaf = other
  · exact different
  · have paths : leaf.path.map Step.member = other.path.map Step.member := by
      rw [← ofKey_key, ← ofKey_key, same]
    have equal : leaf.path = other.path := (List.map_inj_right (by simp)).mp paths
    exact absurd (equal ▸ List.prefix_rfl) (path_apart different)

theorem path_shape (leaf : Leaf) :
    (∃ name ∈ sections, ∃ last, leaf.path = [name, last]) ∨ ∃ name, name ∉ sections ∧ leaf.path = [name] := by
  cases leaf with
  | keyringPath => exact .inr ⟨"keyring_path", by decide, rfl⟩
  | _ => exact .inl ⟨_, by decide, _, rfl⟩

theorem preset_standard {leaf : Leaf} {tree : Tree} (preset : builtIn.at? leaf.path = some tree) :
    tree.IsPlain ∧ leaf.convert? tree = some (leaf.read {}) := by
  rw [builtIn_eq] at preset
  cases leaf with
  | dryRun =>
    cases preset
    exact ⟨trivial, rfl⟩
  | failOn =>
    cases preset
    have high : Severity.all.find? (·.name == Text.lower "high") = some .high := by decide +kernel
    exact ⟨trivial, high⟩
  | _ => cases preset

end Leaf

def Tree.Sectioned (tree : Tree) : Prop :=
  ∀ name ∈ sections, (branches? (tree.members.lookup name)).isSome

def Tree.Replaces (value : Tree) : Prop :=
  ∀ old : Tree, old.merge value = value

section

variable {leaf other : Leaf} {value : Tree}

theorem at_set (replaces : value.Replaces) (tree : Tree) :
    (tree.set leaf.key value).at? other.path = if leaf = other then some value else tree.at? other.path := by
  unfold Tree.set
  rw [leaf.ofKey_key]
  split
  · rename_i same
    subst same
    rw [at_change _ leaf.isLower_path, replaces]
  · rename_i different
    exact at_change_of_apart _ leaf.isLower_path (Leaf.path_apart different)
      (Leaf.path_apart (Ne.symm different)) tree

theorem Tree.Sectioned.set {tree : Tree} (sectioned : tree.Sectioned) (leaf : Leaf) (value : Tree) :
    (tree.set leaf.key value).Sectioned := by
  intro name known
  have lower := leaf.isLower_path
  unfold Tree.set
  rw [leaf.ofKey_key]
  rcases leaf.path_shape with ⟨first, _, last, path⟩ | ⟨first, other, path⟩
  · rw [path] at lower ⊢
    rw [change_names _ _ _ _ (lower first (by simp)), lookup_putMember]
    split
    · rfl
    · exact sectioned name known
  · rw [path] at lower ⊢
    rw [change_names _ _ _ _ (lower first (by simp)), lookup_putMember, if_neg]
    · exact sectioned name known
    · rintro rfl
      exact other known

/-- Entries for single settings, each of them for another one, are found at their paths, and change
nothing else. -/
theorem at_setAll {entries : List (String × Tree)}
    (known : ∀ entry ∈ entries, ∃ leaf : Leaf, entry.1 = leaf.key)
    (replaces : ∀ entry ∈ entries, entry.2.Replaces) (distinct : (entries.map (·.1)).Nodup) (tree : Tree)
    (leaf : Leaf) :
    (tree.setAll entries).at? leaf.path = (entries.lookup leaf.key).or (tree.at? leaf.path) := by
  induction entries generalizing tree with
  | nil => rfl
  | cons entry rest ih =>
    obtain ⟨key, value⟩ := entry
    obtain ⟨⟨other, here⟩, knownRest⟩ := List.forall_mem_cons.mp known
    obtain ⟨flat, replacesRest⟩ := List.forall_mem_cons.mp replaces
    obtain ⟨fresh, distinctRest⟩ := List.nodup_cons.mp distinct
    simp only at here flat fresh
    subst here
    have later : (tree.setAll ((other.key, value) :: rest)).at? leaf.path =
        (rest.lookup leaf.key).or ((tree.set other.key value).at? leaf.path) :=
      ih knownRest replacesRest distinctRest (tree.set other.key value)
    rw [later, at_set flat, lookup_cons_ite]
    by_cases same : other = leaf
    · subst same
      rw [if_pos rfl, if_pos rfl]
      cases found : rest.lookup other.key with
      | none => rfl
      | some again => exact absurd (List.mem_map_of_mem (mem_of_lookup found)) fresh
    · rw [if_neg same, if_neg fun equal => same (Leaf.key_injective equal.symm)]

theorem Tree.Sectioned.setAll {entries : List (String × Tree)}
    (known : ∀ entry ∈ entries, ∃ leaf : Leaf, entry.1 = leaf.key) {tree : Tree}
    (sectioned : tree.Sectioned) : (tree.setAll entries).Sectioned := by
  induction entries generalizing tree with
  | nil => exact sectioned
  | cons entry rest ih =>
    obtain ⟨key, value⟩ := entry
    obtain ⟨⟨leaf, here⟩, later⟩ := List.forall_mem_cons.mp known
    simp only at here
    subst here
    exact ih later (sectioned.set leaf value)

end

namespace Environment

def text? (environment : Environment) (key : String) : Option String :=
  environment.reverse.findSome? fun (name, word) => if key? name = some key then some word else none

def NamesLeaves (environment : Environment) : Prop :=
  ∀ variable_ ∈ environment, ∀ key, key? variable_.1 = some key → ∃ leaf : Leaf, key = leaf.key

theorem replaces_value (key word : String) : (value key word).Replaces := by
  intro old
  unfold value
  split
  · rfl
  · split
    · rfl
    · split
      · rfl
      · split
        · rfl
        · split <;> rfl

variable {environment : Environment}

theorem lookup_entries (key : String) :
    environment.entries.lookup key = (environment.text? key).map (value key) := by
  have each (list : Environment) :
      (list.filterMap fun (name, word) => (key? name).map fun key => (key, value key word)).lookup key =
        (list.findSome? fun (name, word) =>
          if key? name = some key then some word else none).map (value key) := by
    induction list with
    | nil => rfl
    | cons first rest ih =>
      obtain ⟨name, word⟩ := first
      rw [List.filterMap_cons, List.findSome?_cons]
      cases found : key? name with
      | none => simpa [found] using ih
      | some other =>
        simp only [found, Option.map_some, lookup_cons_ite, ih, Option.some.injEq]
        by_cases here : key = other
        · subst here
          simp
        · rw [if_neg here, if_neg (Ne.symm here)]
  rw [entries, Json.lookup_lastOfEach, ← List.filterMap_reverse]
  exact each environment.reverse

theorem mem_entries {entry : String × Tree} (member : entry ∈ environment.entries) :
    ∃ name word, (name, word) ∈ environment ∧ key? name = some entry.1 ∧
      entry.2 = value entry.1 word := by
  have listed := (Json.lastOfEach_distinct _).2 entry member
  obtain ⟨⟨name, word⟩, here, made⟩ := List.mem_filterMap.mp listed
  obtain ⟨key, named, rfl⟩ := Option.map_eq_some_iff.mp made
  exact ⟨name, word, here, named, rfl⟩

theorem entries_known (names : environment.NamesLeaves) :
    ∀ entry ∈ environment.entries, ∃ leaf : Leaf, entry.1 = leaf.key := by
  intro entry member
  obtain ⟨name, word, here, named, _⟩ := mem_entries member
  exact names _ here _ named

theorem entries_replace : ∀ entry ∈ environment.entries, entry.2.Replaces := by
  intro entry member
  obtain ⟨name, word, _, _, made⟩ := mem_entries member
  rw [made]
  exact replaces_value _ _

theorem entries_distinct : (environment.entries.map (·.1)).Nodup :=
  (Json.lastOfEach_distinct _).1

end Environment

def ofFile (entries : List (String × Tree)) : Tree :=
  (table []).setAll entries

/-- What the file says about a setting. A table with nothing in it says nothing. -/
def said? : Option Tree → Option Tree
  | some (.table []) => none
  | own => own

theorem said_of_ne {own : Option Tree} (different : own ≠ some (table [])) : said? own = own := by
  unfold said?
  split
  · exact absurd rfl different
  · rfl

theorem said_of_branches {own : Option Tree} (bare : branches? own = some []) : said? own = none := by
  rcases branches_eq_some.mp bare with ⟨rfl, _⟩ | rfl
  · rfl
  · rfl

theorem Leaf.convert_bare (leaf : Leaf) : leaf.convert? (table []) = none := by
  cases leaf <;> rfl

/-- The tree that a setting is read from: the one of its variable, or else that of the file. -/
def Leaf.source? (leaf : Leaf) (environment : Environment) (file : Tree) : Option Tree :=
  ((environment.text? leaf.key).map (Environment.value leaf.key)).or (said? (file.at? leaf.path))

theorem builtIn_covers : Covers (some builtIn) (some (table [])) (some builtIn) := by
  have section_ (name : String) (tree : Tree) (plain : tree.IsPlain) :
      Covers (some (table [(name, tree)])) none (some (table [(name, tree)])) :=
    .bare (List.forall_mem_singleton.mpr (.kept plain rfl)) rfl
  rw [builtIn_eq]
  refine .bare ?_ rfl
  rw [List.forall_mem_cons, List.forall_mem_singleton]
  exact ⟨section_ "dry_run" (.bool false) trivial, section_ "fail_on" (.text "high") trivial⟩

def layered (entries : List (String × Tree)) (environment : Environment) : Tree :=
  (builtIn.setAll entries).setAll environment.entries

section

variable {entries : List (String × Tree)} {environment : Environment}

theorem ofSources_ok_iff {settings : Settings} :
    ofSources entries environment = .ok settings ↔
      ofTree? (layered entries environment) = some settings := by
  unfold ofSources layered
  split
  · rename_i found
    rw [found, Except.ok.injEq, Option.some.injEq]
  · rename_i missing
    simp [missing]

theorem ofSources_of_none (unfit : ofTree? (layered entries environment) = none) :
    ofSources entries environment = .error .invalid := by
  unfold layered at unfit
  rw [ofSources, unfit]

theorem file_covers (entries : List (String × Tree)) :
    Covers (some builtIn) (some (ofFile entries)) (some (builtIn.setAll entries)) :=
  builtIn_covers.entered entries

theorem sectioned_layered (names : environment.NamesLeaves) (sectioned : (ofFile entries).Sectioned) :
    (layered entries environment).Sectioned := by
  refine Tree.Sectioned.setAll (Environment.entries_known names) ?_
  intro name known
  have covers := (file_covers entries).found [name]
  simp only [Option.bind_some, at_root] at covers
  refine covers.branches ?_ (sectioned name known)
  intro tree preset plain
  rw [builtIn_eq] at preset
  simp only [members, lookup_cons_ite, List.lookup_nil] at preset
  split at preset
  · cases preset
    exact plain
  · split at preset
    · cases preset
      exact plain
    · cases preset

/-- What is read of a setting from the file on top of the built-in values is what the file says about it,
or the built-in value. -/
theorem value_of_file {leaf : Leaf} {value : leaf.Value}
    (read : leaf.value? ((builtIn.setAll entries).at? leaf.path) = some value) :
    leaf.value? (said? ((ofFile entries).at? leaf.path)) = some value := by
  have covers := (file_covers entries).found leaf.path
  simp only [Option.bind_some] at covers
  rcases covers.value fun tree preset => (Leaf.preset_standard preset).1 with own | ⟨bare, there, kept⟩
  · rw [own] at read
    by_cases nothing : (ofFile entries).at? leaf.path = some (table [])
    · rw [nothing] at read
      exact absurd (read.symm.trans leaf.convert_bare) (Option.some_ne_none _)
    · rwa [said_of_ne nothing]
  · obtain ⟨tree, preset⟩ := Option.isSome_iff_exists.mp there
    rw [kept, preset] at read
    rw [said_of_branches bare]
    exact (Leaf.preset_standard preset).2.symm.trans read

theorem layered_table (entries : List (String × Tree)) (environment : Environment) :
    ∃ members, layered entries environment = table members := by
  unfold layered
  rw [builtIn_eq]
  obtain ⟨middle, made⟩ := setAll_table _ entries
  rw [made]
  exact setAll_table middle _

/-- The settings hold for each single setting what its source says, or the built-in value. -/
theorem ofSources_leaf {settings : Settings} (made : ofSources entries environment = .ok settings)
    (names : environment.NamesLeaves) (sectioned : (ofFile entries).Sectioned) (leaf : Leaf) :
    leaf.value? (leaf.source? environment (ofFile entries)) = some (leaf.read settings) := by
  have read := ofSources_ok_iff.mp made
  have open_ := sectioned_layered names sectioned
  have found : (layered entries environment).at? leaf.path =
      ((environment.text? leaf.key).map (Environment.value leaf.key)).or
        ((builtIn.setAll entries).at? leaf.path) := by
    rw [← Environment.lookup_entries]
    exact at_setAll (Environment.entries_known names) Environment.entries_replace
      Environment.entries_distinct _ leaf
  obtain ⟨members, whole⟩ := layered_table entries environment
  rw [whole] at read open_ found
  have value := ofTree_leaf read open_ leaf
  rw [found] at value
  unfold Leaf.source?
  cases given : environment.text? leaf.key with
  | some word =>
    rw [given] at value
    exact value
  | none =>
    rw [given] at value
    exact value_of_file value

end

end Attestor.Settings
