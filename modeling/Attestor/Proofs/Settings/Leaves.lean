import Attestor.Proofs.Settings.Layers
import Attestor.Settings.Conversion
import Mathlib.Logic.Function.Basic

namespace Attestor.Settings

open Associations Settings.Tree

inductive Leaf where
  | enabled
  | required
  | dryRun
  | keyringPath
  | validRepos
  | orgUrls
  | builders
  | projects
  | failOn
  | metadataPath
  | repositoryPath
  | attestationsPath
deriving DecidableEq

def sections : List String :=
  ["checks", "diy", "org", "provenance", "snakeoil", "offline"]

namespace Leaf

def path : Leaf → List String
  | enabled => ["checks", "enabled"]
  | required => ["checks", "required"]
  | dryRun => ["checks", "dry_run"]
  | keyringPath => ["keyring_path"]
  | validRepos => ["diy", "valid_repos"]
  | orgUrls => ["org", "urls"]
  | builders => ["provenance", "trusted_builder_identities"]
  | projects => ["provenance", "trusted_projects"]
  | failOn => ["snakeoil", "fail_on"]
  | metadataPath => ["offline", "metadata_path"]
  | repositoryPath => ["offline", "repository_path"]
  | attestationsPath => ["offline", "attestations_path"]

def key (leaf : Leaf) : String :=
  ".".intercalate leaf.path

def Value : Leaf → Type
  | dryRun => Bool
  | failOn => Severity
  | keyringPath | metadataPath | repositoryPath | attestationsPath => Option String
  | enabled | required | validRepos | orgUrls | builders | projects => List String

def optionalText? : Tree → Option (Option String)
  | .absent => some none
  | tree => tree.text?.map some

def convert? : (leaf : Leaf) → Tree → Option leaf.Value
  | dryRun => bool?
  | failOn => severity?
  | keyringPath | metadataPath | repositoryPath | attestationsPath => optionalText?
  | enabled | required | validRepos | orgUrls | builders | projects => texts?

def read : (leaf : Leaf) → Settings → leaf.Value
  | enabled, settings => settings.checks.enabled
  | required, settings => settings.checks.required
  | dryRun, settings => settings.checks.dryRun
  | keyringPath, settings => settings.keyringPath
  | validRepos, settings => settings.validRepos
  | orgUrls, settings => settings.orgUrls
  | builders, settings => settings.provenance.trustedBuilderIdentities
  | projects, settings => settings.provenance.trustedProjects
  | failOn, settings => settings.failOn
  | metadataPath, settings => settings.offline.metadataPath
  | repositoryPath, settings => settings.offline.repositoryPath
  | attestationsPath, settings => settings.offline.attestationsPath

end Leaf

def orStandard {α : Type} (read? : Tree → Option α) (standard : α) : Option Tree → Option α
  | some tree => read? tree
  | none => some standard

/-- The value that stands in a tree, or the built-in one where nothing stands. -/
def Leaf.value? (leaf : Leaf) : Option Tree → Option leaf.Value :=
  orStandard leaf.convert? (leaf.read {})

/-- The settings have no part that is none of the single settings. -/
theorem eq_of_leaves {settings other : Settings}
    (same : ∀ leaf : Leaf, leaf.read settings = leaf.read other) : settings = other := by
  obtain ⟨⟨enabled, required, dryRun⟩, keyring, repos, urls, ⟨builders, projects⟩, failOn,
    ⟨metadata, repository, attestations⟩⟩ := settings
  obtain ⟨⟨_, _, _⟩, _, _, _, ⟨_, _⟩, _, ⟨_, _, _⟩⟩ := other
  cases same .enabled
  cases same .required
  cases same .dryRun
  cases same .keyringPath
  cases same .validRepos
  cases same .orgUrls
  cases same .builders
  cases same .projects
  cases same .failOn
  cases same .metadataPath
  cases same .repositoryPath
  cases same .attestationsPath
  rfl

inductive Part where
  | checks
  | keyring
  | diy
  | org
  | provenance
  | snakeoil
  | offline
deriving DecidableEq

namespace Part

def name : Part → String
  | checks => "checks"
  | keyring => "keyring_path"
  | diy => "diy"
  | org => "org"
  | provenance => "provenance"
  | snakeoil => "snakeoil"
  | offline => "offline"

def Value : Part → Type
  | checks => CheckSettings
  | keyring => Option String
  | diy | org => List String
  | provenance => ProvenanceSettings
  | snakeoil => Severity
  | offline => FileSettings

def convert? : (part : Part) → Tree → Option part.Value
  | checks => checks?
  | keyring => Leaf.optionalText?
  | diy => single? "valid_repos" texts? []
  | org => single? "urls" texts? []
  | provenance => provenance?
  | snakeoil => single? "fail_on" severity? .high
  | offline => files?

def read : (part : Part) → Settings → part.Value
  | checks, settings => settings.checks
  | keyring, settings => settings.keyringPath
  | diy, settings => settings.validRepos
  | org, settings => settings.orgUrls
  | provenance, settings => settings.provenance
  | snakeoil, settings => settings.failOn
  | offline, settings => settings.offline

def value? (part : Part) : Option Tree → Option part.Value :=
  orStandard part.convert? (part.read {})

theorem name_mem_sections {part : Part} (inside : part ≠ keyring) : part.name ∈ sections := by
  cases part <;> first | decide | exact absurd rfl inside

end Part

namespace Leaf

def part : Leaf → Part
  | enabled | required | dryRun => .checks
  | keyringPath => .keyring
  | validRepos => .diy
  | orgUrls => .org
  | builders | projects => .provenance
  | failOn => .snakeoil
  | metadataPath | repositoryPath | attestationsPath => .offline

def last (leaf : Leaf) : String :=
  leaf.path.getLastD ""

theorem path_inside {leaf : Leaf} (inside : leaf.part ≠ .keyring) :
    leaf.path = [leaf.part.name, leaf.last] := by
  cases leaf <;> first | rfl | exact absurd rfl inside

theorem eq_keyringPath {leaf : Leaf} (root : leaf.part = .keyring) : leaf = keyringPath := by
  cases leaf <;> first | rfl | cases root

end Leaf

def ofLeaves (value : (leaf : Leaf) → leaf.Value) : Settings where
  checks := { enabled := value .enabled, required := value .required, dryRun := value .dryRun }
  keyringPath := value .keyringPath
  validRepos := value .validRepos
  orgUrls := value .orgUrls
  provenance :=
    { trustedBuilderIdentities := value .builders, trustedProjects := value .projects }
  failOn := value .failOn
  offline :=
    { metadataPath := value .metadataPath
      repositoryPath := value .repositoryPath
      attestationsPath := value .attestationsPath }

theorem read_ofLeaves (value : (leaf : Leaf) → leaf.Value) (leaf : Leaf) :
    leaf.read (ofLeaves value) = value leaf := by
  cases leaf <;> rfl

def ofParts (value : (part : Part) → part.Value) : Settings where
  checks := value .checks
  keyringPath := value .keyring
  validRepos := value .diy
  orgUrls := value .org
  provenance := value .provenance
  failOn := value .snakeoil
  offline := value .offline

theorem read_ofParts (value : (part : Part) → part.Value) (part : Part) :
    part.read (ofParts value) = value part := by
  cases part <;> rfl

section

variable {members fields inner : List (String × Tree)} {names : List String} {name : String} {α : Type}

theorem lookup_fields (known : name ∈ names) :
    (members.filter fun (other, _) => names.contains other).lookup name = members.lookup name :=
  lookup_filter_key (List.contains_iff_mem.mpr known) members

theorem withDefault_eq (read? : Tree → Option α) (standard : α) :
    withDefault fields name read? standard = orStandard read? standard (fields.lookup name) := by
  unfold withDefault orStandard
  cases fields.lookup name <;> rfl

theorem optional_table :
    Tree.optional (table members) fields name = orStandard Leaf.optionalText? none (fields.lookup name) := by
  unfold Tree.optional orStandard
  cases found : fields.lookup name with
  | none => rfl
  | some tree => cases tree <;> rfl

theorem at_root (tree : Tree) (name : String) : tree.at? [name] = tree.members.lookup name := by
  rw [at?]
  cases tree.members.lookup name <;> rfl

theorem at_section (open_ : branches? (members.lookup name) = some inner) (last : String) :
    (table members).at? [name, last] = inner.lookup last := by
  have found : (members.lookup name).bind (·.at? [last]) = (inner.lookup last).bind (·.at? []) :=
    branches_at open_ last []
  exact found.trans (by cases inner.lookup last <;> rfl)

theorem checks_eq_some_iff {checks : CheckSettings} :
    checks? (table inner) = some checks ↔
      orStandard texts? ({} : CheckSettings).enabled (inner.lookup "enabled") = some checks.enabled ∧
      orStandard texts? [] (inner.lookup "required") = some checks.required ∧
      orStandard bool? false (inner.lookup "dry_run") = some checks.dryRun := by
  simp only [checks?, fields?, Option.bind_eq_bind, Option.bind_some, Option.bind_eq_some_iff,
    Option.pure_def, withDefault_eq, Option.some.injEq]
  simp (disch := decide) only [lookup_fields]
  constructor
  · rintro ⟨enabled, enabledMade, required, requiredMade, dryRun, dryRunMade, rfl⟩
    exact ⟨enabledMade, requiredMade, dryRunMade⟩
  · rintro ⟨enabledMade, requiredMade, dryRunMade⟩
    exact ⟨_, enabledMade, _, requiredMade, _, dryRunMade, rfl⟩

theorem provenance_eq_some_iff {provenance : ProvenanceSettings} :
    provenance? (table inner) = some provenance ↔
      orStandard texts? [] (inner.lookup "trusted_builder_identities") =
        some provenance.trustedBuilderIdentities ∧
      orStandard texts? [] (inner.lookup "trusted_projects") = some provenance.trustedProjects := by
  simp only [provenance?, fields?, Option.bind_eq_bind, Option.bind_some, Option.bind_eq_some_iff,
    Option.pure_def, withDefault_eq, Option.some.injEq]
  simp (disch := decide) only [lookup_fields]
  constructor
  · rintro ⟨builders, buildersMade, projects, projectsMade, rfl⟩
    exact ⟨buildersMade, projectsMade⟩
  · rintro ⟨buildersMade, projectsMade⟩
    exact ⟨_, buildersMade, _, projectsMade, rfl⟩

theorem files_eq_some_iff {offline : FileSettings} :
    files? (table inner) = some offline ↔
      orStandard Leaf.optionalText? none (inner.lookup "metadata_path") = some offline.metadataPath ∧
      orStandard Leaf.optionalText? none (inner.lookup "repository_path") =
        some offline.repositoryPath ∧
      orStandard Leaf.optionalText? none (inner.lookup "attestations_path") =
        some offline.attestationsPath := by
  simp only [files?, fields?, Option.bind_eq_bind, Option.bind_some, Option.bind_eq_some_iff,
    Option.pure_def, optional_table, Option.some.injEq]
  simp (disch := decide) only [lookup_fields]
  constructor
  · rintro ⟨metadata, metadataMade, repository, repositoryMade, attestations, attestationsMade, rfl⟩
    exact ⟨metadataMade, repositoryMade, attestationsMade⟩
  · rintro ⟨metadataMade, repositoryMade, attestationsMade⟩
    exact ⟨_, metadataMade, _, repositoryMade, _, attestationsMade, rfl⟩

theorem single_eq_some_iff {read? : Tree → Option α} {standard value : α} :
    single? name read? standard (table inner) = some value ↔
      orStandard read? standard (inner.lookup name) = some value := by
  simp only [single?, fields?, Option.bind_eq_bind, Option.bind_some, withDefault_eq]
  rw [lookup_fields (List.mem_singleton_self name)]

theorem section_eq_some_iff {part : Part} (inside : part ≠ .keyring) {settings : Settings} :
    part.value? (some (table inner)) = some (part.read settings) ↔
      ∀ leaf : Leaf, leaf.part = part →
        leaf.value? (inner.lookup leaf.last) = some (leaf.read settings) := by
  cases part with
  | keyring => exact absurd rfl inside
  | checks =>
    refine checks_eq_some_iff.trans ⟨?_, fun each =>
      ⟨each .enabled rfl, each .required rfl, each .dryRun rfl⟩⟩
    rintro ⟨enabled, required, dryRun⟩ leaf same
    cases leaf <;> cases same <;> assumption
  | provenance =>
    refine provenance_eq_some_iff.trans ⟨?_, fun each => ⟨each .builders rfl, each .projects rfl⟩⟩
    rintro ⟨builders, projects⟩ leaf same
    cases leaf <;> cases same <;> assumption
  | offline =>
    refine files_eq_some_iff.trans ⟨?_, fun each =>
      ⟨each .metadataPath rfl, each .repositoryPath rfl, each .attestationsPath rfl⟩⟩
    rintro ⟨metadata, repository, attestations⟩ leaf same
    cases leaf <;> cases same <;> assumption
  | diy =>
    refine single_eq_some_iff.trans ⟨?_, fun each => each .validRepos rfl⟩
    intro made leaf same
    cases leaf <;> cases same
    exact made
  | org =>
    refine single_eq_some_iff.trans ⟨?_, fun each => each .orgUrls rfl⟩
    intro made leaf same
    cases leaf <;> cases same
    exact made
  | snakeoil =>
    refine single_eq_some_iff.trans ⟨?_, fun each => each .failOn rfl⟩
    intro made leaf same
    cases leaf <;> cases same
    exact made

theorem section_of_branches {part : Part} (inside : part ≠ .keyring) {own : Option Tree}
    (branches : branches? own = some inner) : part.value? own = part.value? (some (table inner)) := by
  rcases branches_eq_some.mp branches with ⟨rfl, rfl⟩ | rfl
  · cases part <;> first | rfl | exact absurd rfl inside
  · rfl

theorem ofTree_eq_some_iff {settings : Settings} :
    ofTree? (table members) = some settings ↔
      ∀ part : Part, part.value? (members.lookup part.name) = some (part.read settings) := by
  simp only [ofTree?, fields?, Option.bind_eq_bind, Option.bind_some, Option.bind_eq_some_iff,
    Option.pure_def, withDefault_eq, optional_table, Option.some.injEq]
  simp (disch := decide) only [lookup_fields]
  constructor
  · rintro ⟨checks, checksMade, keyringPath, keyringMade, validRepos, diyMade, orgUrls, orgMade,
      provenance, provenanceMade, failOn, snakeoilMade, offline, offlineMade, rfl⟩ part
    cases part <;> assumption
  · intro each
    exact ⟨_, each .checks, _, each .keyring, _, each .diy, _, each .org, _, each .provenance, _,
      each .snakeoil, _, each .offline, rfl⟩

/-- Settings out of a table hold for each single setting what stands there, if all its sections are
tables. -/
theorem ofTree_leaf {settings : Settings} (made : ofTree? (table members) = some settings)
    (open_ : ∀ name ∈ sections, (branches? (members.lookup name)).isSome) (leaf : Leaf) :
    leaf.value? ((table members).at? leaf.path) = some (leaf.read settings) := by
  have part := ofTree_eq_some_iff.mp made leaf.part
  by_cases root : leaf.part = .keyring
  · obtain rfl := Leaf.eq_keyringPath root
    rw [Leaf.path, at_root]
    exact part
  · obtain ⟨inner, branches⟩ :=
      Option.isSome_iff_exists.mp (open_ leaf.part.name (Part.name_mem_sections root))
    rw [section_of_branches root branches] at part
    rw [Leaf.path_inside root, at_section branches]
    exact (section_eq_some_iff root).mp part leaf rfl

theorem ofTree_isSome_iff :
    (ofTree? (table members)).isSome = true ↔
      ∀ part : Part, (part.value? (members.lookup part.name)).isSome = true := by
  simp only [Option.isSome_iff_exists, ofTree_eq_some_iff]
  constructor
  · rintro ⟨settings, each⟩ part
    exact ⟨_, each part⟩
  · intro each
    refine ⟨ofParts fun part => (part.value? (members.lookup part.name)).getD (part.read {}),
      fun part => ?_⟩
    obtain ⟨value, made⟩ := each part
    rw [read_ofParts, made, Option.getD_some]

theorem section_isSome_iff {part : Part} (inside : part ≠ .keyring) :
    (part.value? (some (table inner))).isSome = true ↔
      ∀ leaf : Leaf, leaf.part = part → (leaf.value? (inner.lookup leaf.last)).isSome = true := by
  simp only [Option.isSome_iff_exists]
  constructor
  · rintro ⟨value, made⟩ leaf same
    have whole : part.read (ofParts (Function.update (fun other => other.read {}) part value)) =
        value := by
      rw [read_ofParts, Function.update_self]
    rw [← whole] at made
    exact ⟨_, (section_eq_some_iff inside).mp made leaf same⟩
  · intro each
    refine ⟨part.read (ofLeaves fun leaf => (leaf.value? (inner.lookup leaf.last)).getD (leaf.read {})),
      (section_eq_some_iff inside).mpr fun leaf same => ?_⟩
    obtain ⟨value, made⟩ := each leaf same
    rw [read_ofLeaves, made, Option.getD_some]

end

end Attestor.Settings
