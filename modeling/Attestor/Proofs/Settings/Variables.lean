import Attestor.Proofs.Settings.Loading
import Attestor.Proofs.Settings.Scalars

namespace Attestor.Settings

open Associations Settings.Tree

def Step.Apart : List Step → List String → Prop
  | .member name :: steps, other :: path => Text.lower name ≠ other ∨ Apart steps path
  | _, _ => False

theorem Step.not_apart_self {path : List String} (lower : IsLower path) :
    ¬ Apart (path.map .member) path := by
  induction path with
  | nil => exact id
  | cons name rest ih =>
    obtain ⟨first, later⟩ := List.forall_mem_cons.mp lower
    rintro (different | apart)
    · exact different first
    · exact ih later apart

namespace Tree

/-- The second tree is the first one with a value in the place of what stands at a path. -/
inductive Carries (value : Tree) : List String → Option Tree → Option Tree → Prop
  | here (own : Option Tree) : Carries value [] own (some value)
  | inside {name : String} {path : List String} {own : Option Tree} {inner : List (String × Tree)}
      (beside : ∀ other, other ≠ name → inner.lookup other = (own.getD absent).members.lookup other)
      (there : Carries value path ((own.getD absent).members.lookup name) (inner.lookup name)) :
      Carries value (name :: path) own (some (table inner))

variable {value : Tree} {path : List String}

theorem Carries.nil {own full : Option Tree} (carries : Carries value [] own full) :
    full = some value := by
  cases carries
  rfl

theorem Carries.cons {name : String} {own full : Option Tree}
    (carries : Carries value (name :: path) own full) :
    ∃ inner, full = some (table inner) ∧
      (∀ other, other ≠ name → inner.lookup other = (own.getD absent).members.lookup other) ∧
      Carries value path ((own.getD absent).members.lookup name) (inner.lookup name) := by
  cases carries with
  | inside beside there => exact ⟨_, rfl, beside, there⟩

theorem Carries.put {f : Tree → Tree} (replaces : ∀ old, f old = value) (lower : IsLower path)
    (own : Option Tree) :
    Carries value path own (some (change f (path.map .member) (own.getD absent))) := by
  induction path generalizing own with
  | nil =>
    rw [List.map_nil, change, replaces]
    exact .here own
  | cons name rest ih =>
    obtain ⟨first, later⟩ := List.forall_mem_cons.mp lower
    rw [change_names f name rest _ first]
    refine .inside ?_ ?_
    · intro other different
      rw [lookup_replace, if_neg different]
    · rw [lookup_replace, if_pos rfl]
      exact ih later _

theorem Carries.changed {own full : Option Tree} (carries : Carries value path own full)
    {steps : List Step} (apart : Step.Apart steps path) (f : Tree → Tree) :
    Carries value path (some (change f steps (own.getD absent)))
      (some (change f steps (full.getD absent))) := by
  induction carries generalizing steps with
  | here => cases steps <;> simp [Step.Apart] at apart
  | @inside name path own inner beside there ih =>
    match steps with
    | [] => exact apart.elim
    | .item _ :: _ => exact apart.elim
    | .member first :: steps =>
      refine .inside ?_ ?_
      · intro other different
        refine (lookup_replace ..).trans (Eq.trans ?_ (lookup_replace ..).symm)
        split
        · rename_i here
          subst here
          exact congrArg (fun old => some (change f steps (old.getD absent))) (beside _ different)
        · exact beside other different
      · have left : ((some (change f (.member first :: steps) (own.getD absent))).getD
            absent).members.lookup name = _ := lookup_replace ..
        rw [left, lookup_replace]
        by_cases here : name = Text.lower first
        · subst here
          rw [if_pos rfl, if_pos rfl]
          exact ih (apart.resolve_left fun different => different rfl)
        · rw [if_neg here, if_neg here]
          exact there

theorem Carries.entered {own full : Tree} (carries : Carries value path (some own) (some full))
    {entries : List (String × Tree)} (apart : ∀ entry ∈ entries, Step.Apart (Step.ofKey entry.1) path) :
    Carries value path (some (own.setAll entries)) (some (full.setAll entries)) := by
  induction entries generalizing own full with
  | nil => exact carries
  | cons entry rest ih =>
    obtain ⟨key, added⟩ := entry
    obtain ⟨first, later⟩ := List.forall_mem_cons.mp apart
    exact ih (carries.changed first _) later

end Tree

theorem Part.name_injective {part other : Part} (same : part.name = other.name) : part = other := by
  cases part <;> cases other <;> first | rfl | exact absurd same (by decide)

theorem Leaf.last_injective {leaf other : Leaf} (together : leaf.part = other.part)
    (same : leaf.last = other.last) : leaf = other := by
  cases leaf <;> cases other <;>
    first | rfl | exact absurd together (by decide) | exact absurd same (by decide)

theorem section_members {part : Part} (inside : part ≠ .keyring) {own : Option Tree}
    (readable : (part.value? own).isSome = true) :
    (part.value? (some (table (own.getD absent).members))).isSome = true := by
  have bare : (part.value? (some (table []))).isSome = true := by
    cases part <;> first | rfl | exact absurd rfl inside
  cases own with
  | none => exact bare
  | some tree =>
    cases tree with
    | table members => exact readable
    | _ => exact bare

section

variable {members inner : List (String × Tree)}

theorem section_isSome_of_beside {leaf : Leaf} (inside : leaf.part ≠ .keyring) {own : Option Tree}
    (readable : (leaf.part.value? own).isSome = true)
    (beside : ∀ other, other ≠ leaf.last →
      inner.lookup other = (own.getD absent).members.lookup other) :
    (leaf.part.value? (some (table inner))).isSome = true ↔
      (leaf.value? (inner.lookup leaf.last)).isSome = true := by
  rw [section_isSome_iff inside]
  constructor
  · intro each
    exact each leaf rfl
  · intro own other together
    by_cases same : other.last = leaf.last
    · obtain rfl := Leaf.last_injective together same
      exact own
    · rw [beside _ same]
      exact (section_isSome_iff inside).mp (section_members inside readable) other together

theorem ofTree_isSome_of_beside (part : Part) (readable : (ofTree? (table members)).isSome = true)
    (beside : ∀ other, other ≠ part.name → inner.lookup other = members.lookup other) :
    (ofTree? (table inner)).isSome = true ↔ (part.value? (inner.lookup part.name)).isSome = true := by
  rw [ofTree_isSome_iff]
  constructor
  · intro each
    exact each part
  · intro own other
    by_cases same : other.name = part.name
    · obtain rfl := Part.name_injective same
      exact own
    · rw [beside _ same]
      exact ofTree_isSome_iff.mp readable other

/-- With a value put in the place of one setting, the settings can be read if and only if this one can be
read from the value, whatever the tree says about it and in whatever form its section stands there. -/
theorem ofTree_carries {leaf : Leaf} {value full : Tree}
    (carries : Carries value leaf.path (some (table members)) (some full))
    (readable : (ofTree? (table members)).isSome = true) :
    ((ofTree? full).isSome = true ↔ (leaf.convert? value).isSome = true) ∧
      ∀ settings, ofTree? full = some settings → leaf.convert? value = some (leaf.read settings) := by
  have own := ofTree_isSome_iff.mp readable leaf.part
  by_cases root : leaf.part = .keyring
  · obtain rfl := Leaf.eq_keyringPath root
    obtain ⟨inner, same, beside, there⟩ := Carries.cons carries
    cases same
    have found := there.nil
    have whole := ofTree_isSome_of_beside .keyring readable beside
    have read (settings : Settings) (made : ofTree? (table inner) = some settings) :=
      ofTree_eq_some_iff.mp made .keyring
    simp only [Part.name, found] at whole read
    exact ⟨whole, read⟩
  · rw [leaf.path_inside root] at carries
    obtain ⟨outer, same, besideOuter, thereOuter⟩ := Carries.cons carries
    cases same
    obtain ⟨inner, found, beside, there⟩ := thereOuter.cons
    have whole := ofTree_isSome_of_beside leaf.part readable besideOuter
    have within := section_isSome_of_beside root own beside
    have read (settings : Settings) (made : ofTree? (table outer) = some settings) :=
      ofTree_eq_some_iff.mp made leaf.part
    rw [found] at whole read
    rw [there.nil] at within
    refine ⟨whole.trans within, fun settings made => ?_⟩
    have last := (section_eq_some_iff root).mp (read settings made) leaf rfl
    rw [there.nil] at last
    exact last

end

namespace Leaf

inductive IsList : Leaf → (Settings → List String) → Prop
  | enabled : IsList enabled (·.checks.enabled)
  | required : IsList required (·.checks.required)
  | validRepos : IsList validRepos (·.validRepos)
  | orgUrls : IsList orgUrls (·.orgUrls)
  | builders : IsList builders (·.provenance.trustedBuilderIdentities)
  | projects : IsList projects (·.provenance.trustedProjects)

inductive IsPath : Leaf → (Settings → Option String) → Prop
  | keyringPath : IsPath keyringPath (·.keyringPath)
  | metadataPath : IsPath metadataPath (·.offline.metadataPath)
  | repositoryPath : IsPath repositoryPath (·.offline.repositoryPath)
  | attestationsPath : IsPath attestationsPath (·.offline.attestationsPath)

structure HasField {α : Type} (leaf : Leaf) (read? : Tree → Option α) (field : Settings → α) : Prop where
  isSome : ∀ tree, (leaf.convert? tree).isSome = (read? tree).isSome
  holds : ∀ tree settings,
    leaf.convert? tree = some (leaf.read settings) ↔ read? tree = some (field settings)

variable {leaf : Leaf} {field : Settings → List String} {path : Settings → Option String}

theorem IsList.hasField (list : leaf.IsList field) : leaf.HasField texts? field := by
  cases list <;> exact ⟨fun _ => rfl, fun _ _ => Iff.rfl⟩

theorem IsPath.hasField (named : leaf.IsPath path) : leaf.HasField optionalText? path := by
  cases named <;> exact ⟨fun _ => rfl, fun _ _ => Iff.rfl⟩

theorem IsList.key (list : leaf.IsList field) : Environment.listKeys.contains leaf.key = true := by
  cases list <;> decide +kernel

theorem IsPath.key (named : leaf.IsPath path) : Environment.listKeys.contains leaf.key = false := by
  cases named <;> decide +kernel

end Leaf

namespace Environment

theorem lastOfEach_insert {key : String} {added : Tree} (before after : List (String × Tree))
    (fresh : ∀ entry ∈ before ++ after, entry.1 ≠ key) :
    ∃ first last, Json.lastOfEach (before ++ (key, added) :: after) = first ++ (key, added) :: last ∧
      Json.lastOfEach (before ++ after) = first ++ last := by
  induction before with
  | nil =>
    have once : after.any (·.1 == key) = false := by
      rw [List.any_eq_false]
      intro entry member same
      exact fresh entry member (beq_iff_eq.mp same)
    exact ⟨[], Json.lastOfEach after, by simp [Json.lastOfEach, once], rfl⟩
  | cons entry rest ih =>
    obtain ⟨different, later⟩ := List.forall_mem_cons.mp fresh
    obtain ⟨first, last, inserted, without⟩ := ih later
    obtain ⟨name, value⟩ := entry
    have again : (rest ++ (key, added) :: after).any (·.1 == name) =
        (rest ++ after).any (·.1 == name) := by
      simp [beq_eq_false_iff_ne.mpr (Ne.symm different)]
    simp only [List.cons_append, Json.lastOfEach, again, inserted, without]
    split
    · exact ⟨first, last, rfl, rfl⟩
    · exact ⟨(name, value) :: first, last, rfl, rfl⟩

/-- No variable has a say about a setting but through other names. -/
def LeavesAlone (environment : Environment) (leaf : Leaf) : Prop :=
  ∀ variable_ ∈ environment, ∀ key, key? variable_.1 = some key →
    Step.Apart (Step.ofKey key) leaf.path

variable {before after : Environment} {leaf : Leaf} {name : String}

theorem entries_insert (named : key? name = some leaf.key)
    (alone : LeavesAlone (before ++ after) leaf) (word : String) :
    ∃ first last, entries (before ++ (name, word) :: after) =
        first ++ (leaf.key, value leaf.key word) :: last ∧
      entries (before ++ after) = first ++ last := by
  have fresh : ∀ entry ∈ (before ++ after).filterMap (fun given =>
      (key? given.1).map fun key => (key, value key given.2)), entry.1 ≠ leaf.key := by
    intro entry member same
    obtain ⟨given, here, made⟩ := List.mem_filterMap.mp member
    obtain ⟨key, stated, rfl⟩ := Option.map_eq_some_iff.mp made
    simp only at same
    subst same
    have apart := alone _ here _ stated
    rw [leaf.ofKey_key] at apart
    exact Step.not_apart_self leaf.isLower_path apart
  unfold entries
  rw [List.filterMap_append] at fresh ⊢
  rw [List.filterMap_append, List.filterMap_cons]
  simp only [named, Option.map_some]
  exact lastOfEach_insert _ _ fresh

theorem lookup_insert {key : String} (different : name ≠ key) (word : String)
    (before after : Environment) :
    (before ++ (name, word) :: after).lookup key = (before ++ after).lookup key := by
  rw [List.lookup_append, List.lookup_append, lookup_cons_ite, if_neg (Ne.symm different)]

end Environment

section

variable {formats : Formats} {path : Option String} {before after : Environment} {files : Files}
  {base : Settings} {leaf : Leaf} {name : String}

theorem fileEntries_insert (named : Environment.key? name = some leaf.key) (word : String) :
    fileEntries formats path (before ++ (name, word) :: after) files =
      fileEntries formats path (before ++ after) files := by
  have different : name ≠ Environment.pathVariable := by
    rintro rfl
    have unnamed : Environment.key? Environment.pathVariable = none := by decide +kernel
    cases unnamed.symm.trans named
  unfold fileEntries
  rw [Environment.lookup_insert different]

theorem layered_carries (named : Environment.key? name = some leaf.key)
    (alone : Environment.LeavesAlone (before ++ after) leaf) (word : String)
    (entries : List (String × Tree)) :
    Carries (Environment.value leaf.key word) leaf.path (some (layered entries (before ++ after)))
      (some (layered entries (before ++ (name, word) :: after))) := by
  obtain ⟨first, last, inserted, without⟩ := Environment.entries_insert named alone word
  have apart : ∀ entry ∈ last, Step.Apart (Step.ofKey entry.1) leaf.path := by
    intro entry member
    have listed : entry ∈ Environment.entries (before ++ after) := by
      rw [without]
      exact List.mem_append_right first member
    obtain ⟨other, held, here, stated, _⟩ := Environment.mem_entries listed
    exact alone _ here _ stated
  unfold layered
  rw [inserted, without]
  simp only [setAll, List.foldl_append, List.foldl_cons]
  refine Carries.entered ?_ apart
  unfold Tree.set
  rw [leaf.ofKey_key]
  exact Carries.put (Environment.replaces_value leaf.key word) leaf.isLower_path (some _)

/-- The settings are loaded with a variable added if and only if the field can be read from its value. -/
theorem load_insert {α : Type} {read? : Tree → Option α} {field : Settings → α}
    (own : leaf.HasField read? field)
    (loaded : (load formats Files.access path (before ++ after) files).1 = .ok base)
    (named : Environment.key? name = some leaf.key)
    (alone : Environment.LeavesAlone (before ++ after) leaf) (word : String) :
    (read? (Environment.value leaf.key word) = none →
      (load formats Files.access path (before ++ (name, word) :: after) files).1 = .error .invalid) ∧
    (∀ a, read? (Environment.value leaf.key word) = some a → ∃ settings,
      (load formats Files.access path (before ++ (name, word) :: after) files).1 = .ok settings ∧
        field settings = a) := by
  rw [load_eq] at loaded ⊢
  obtain ⟨entries, file, made⟩ := Results.bind_ok_iff.mp loaded
  have readable := Option.isSome_of_eq_some (ofSources_ok_iff.mp made)
  have carries := layered_carries named alone word entries
  obtain ⟨members, whole⟩ := layered_table entries (before ++ after)
  rw [whole] at readable carries
  obtain ⟨same, read⟩ := ofTree_carries carries readable
  have now : (fileEntries formats path (before ++ (name, word) :: after) files >>=
      (ofSources · (before ++ (name, word) :: after))) =
        ofSources entries (before ++ (name, word) :: after) := by
    rw [fileEntries_insert named, file]
    rfl
  rw [now]
  rw [own.isSome] at same
  constructor
  · intro unfit
    refine ofSources_of_none (Option.not_isSome_iff_eq_none.mp ?_)
    rw [same, unfit]
    exact Bool.false_ne_true
  · intro a fits
    obtain ⟨settings, found⟩ := Option.isSome_iff_exists.mp (same.mpr (Option.isSome_of_eq_some fits))
    have value := (own.holds _ settings).mp (read settings found)
    exact ⟨settings, ofSources_ok_iff.mpr found, Option.some.inj (value.symm.trans fits)⟩

/-- What a variable makes of a list or a path about which no other variable has a say. A text that reads
as a truth value or a number makes no list; as a path it is loaded as that value is written out. Every other
text is taken as it stands. -/
theorem load_variable (loaded : (load formats Files.access path (before ++ after) files).1 = .ok base)
    (named : Environment.key? name = some leaf.key)
    (alone : Environment.LeavesAlone (before ++ after) leaf) (word : String) :
    let result := (load formats Files.access path (before ++ (name, word) :: after) files).1
    (∀ field, leaf.IsList field →
      (Environment.scalar? word = none →
        ∃ settings, result = .ok settings ∧ field settings = Environment.pieces word) ∧
      (∀ tree, Environment.scalar? word = some tree → result = .error .invalid)) ∧
    (∀ field, leaf.IsPath field →
      ∃ settings, result = .ok settings ∧ field settings = some (Environment.respelled word)) := by
  intro result
  refine ⟨fun field list => ?_, fun field single => ?_⟩
  · obtain ⟨refused, accepted⟩ := load_insert list.hasField loaded named alone word
    have texts := Environment.texts_value list.key word
    refine ⟨fun plain => accepted _ ?_, fun tree scalar => refused ?_⟩
    · rw [texts, plain]
      rfl
    · rw [texts, scalar]
      rfl
  · obtain ⟨_, accepted⟩ := load_insert single.hasField loaded named alone word
    exact accepted _ (Environment.optionalText_value single.key word)

end

/-- The number of a project is no list of one project, though two numbers make a list, and the name of a
file loses the zeros in front of a number. -/
theorem load_variable_numbers :
    (load .plain Files.access none [("VOUCHER__PROVENANCE__TRUSTED_PROJECTS", "123456789012")] {}).1 =
        .error .invalid ∧
      (∃ settings,
        (load .plain Files.access none [("VOUCHER__PROVENANCE__TRUSTED_PROJECTS", "12,7")] {}).1 =
            .ok settings ∧
          settings.provenance.trustedProjects = ["12", "7"]) ∧
      ∃ settings, (load .plain Files.access none [("VOUCHER__KEYRING_PATH", "007")] {}).1 = .ok settings ∧
        settings.keyringPath = some "7" := by
  have loaded : (load .plain Files.access none ([] ++ []) {}).1 = .ok {} :=
    ok_of_toOption (by decide +kernel)
  have projects : Environment.key? "VOUCHER__PROVENANCE__TRUSTED_PROJECTS" = some Leaf.projects.key := by
    decide +kernel
  have keyring : Environment.key? "VOUCHER__KEYRING_PATH" = some Leaf.keyringPath.key := by
    decide +kernel
  have alone (leaf : Leaf) : Environment.LeavesAlone ([] ++ []) leaf := by
    simp [Environment.LeavesAlone]
  have number : (Environment.scalar? "123456789012").isSome = true := by
    decide +kernel
  have numbers : (Environment.scalar? "12,7").isNone = true ∧
      Environment.pieces "12,7" = ["12", "7"] := by
    decide +kernel
  have name : Environment.respelled "007" = "7" := by
    decide +kernel
  obtain ⟨tree, read⟩ := Option.isSome_iff_exists.mp number
  obtain ⟨single, _⟩ := load_variable loaded projects (alone .projects) "123456789012"
  obtain ⟨pair, _⟩ := load_variable loaded projects (alone .projects) "12,7"
  obtain ⟨_, path⟩ := load_variable loaded keyring (alone .keyringPath) "007"
  refine ⟨(single _ .projects).2 tree read, ?_, ?_⟩
  · obtain ⟨settings, made, own⟩ := (pair _ .projects).1 (Option.isNone_iff_eq_none.mp numbers.1)
    exact ⟨settings, made, own.trans numbers.2⟩
  · obtain ⟨settings, made, own⟩ := path _ .keyringPath
    exact ⟨settings, made, own.trans (congrArg some name)⟩

end Attestor.Settings
