import Attestor.Number.Shortest
import Attestor.Settings
import Attestor.Settings.Tree

namespace Attestor.Settings

namespace Tree

def text? : Tree → Option String
  | text value => some value
  | bool value => some (if value then "true" else "false")
  | integer value => some (toString value)
  | float value => some value.toText
  | _ => none

def bool? : Tree → Option Bool
  | bool value => some value
  | integer value => some (value != 0)
  | float value => some (!value.isZero)
  | text value =>
    let word := Text.lower value
    if ["1", "true", "on", "yes"].contains word then some true
    else if ["0", "false", "off", "no"].contains word then some false
    else none
  | _ => none

def texts? : Tree → Option (List String)
  | list items => items.mapM text?
  | _ => none

def severity? : Tree → Option Severity
  | text name => named name
  | table [(name, _)] => named name
  | _ => none
where
  named (name : String) : Option Severity :=
    Severity.all.find? (·.name == Text.lower name)

/-- The fields of a section, which is a table with any other names in it, or a list of the fields in
order and perhaps more. -/
def fields? (names : List String) : Tree → Option (List (String × Tree))
  | table members => some (members.filter fun (name, _) => names.contains name)
  | list items => some (names.zip items)
  | _ => none

def withDefault {α : Type} (fields : List (String × Tree)) (name : String)
    (value? : Tree → Option α) (standard : α) : Option α :=
  match fields.lookup name with
  | some value => value? value
  | none => some standard

def optional (section_ : Tree) (fields : List (String × Tree)) (name : String) :
    Option (Option String) :=
  match fields.lookup name, section_ with
  | some absent, _ => some none
  | some value, _ => (text? value).map some
  | none, list _ => none
  | none, _ => some none

def checks? (tree : Tree) : Option CheckSettings := do
  let standard : CheckSettings := {}
  let fields ← tree.fields? ["enabled", "required", "dry_run"]
  let enabled ← withDefault fields "enabled" texts? standard.enabled
  let required ← withDefault fields "required" texts? []
  let dryRun ← withDefault fields "dry_run" bool? false
  return { enabled, required, dryRun }

def provenance? (tree : Tree) : Option ProvenanceSettings := do
  let fields ← tree.fields? ["trusted_builder_identities", "trusted_projects"]
  let trustedBuilderIdentities ← withDefault fields "trusted_builder_identities" texts? []
  let trustedProjects ← withDefault fields "trusted_projects" texts? []
  return { trustedBuilderIdentities, trustedProjects }

def files? (tree : Tree) : Option FileSettings := do
  let fields ← tree.fields? ["metadata_path", "repository_path", "attestations_path"]
  let metadataPath ← tree.optional fields "metadata_path"
  let repositoryPath ← tree.optional fields "repository_path"
  let attestationsPath ← tree.optional fields "attestations_path"
  return { metadataPath, repositoryPath, attestationsPath }

def single? {α : Type} (name : String) (value? : Tree → Option α) (standard : α) (tree : Tree) :
    Option α := do
  let fields ← tree.fields? [name]
  withDefault fields name value? standard

end Tree

def ofTree? (tree : Tree) : Option Settings := do
  let fields ← tree.fields?
    ["checks", "keyring_path", "diy", "org", "provenance", "snakeoil", "offline"]
  let checks ← Tree.withDefault fields "checks" Tree.checks? {}
  let keyringPath ← tree.optional fields "keyring_path"
  let validRepos ← Tree.withDefault fields "diy" (Tree.single? "valid_repos" Tree.texts? []) []
  let orgUrls ← Tree.withDefault fields "org" (Tree.single? "urls" Tree.texts? []) []
  let provenance ← Tree.withDefault fields "provenance" Tree.provenance? {}
  let failOn ← Tree.withDefault fields "snakeoil"
    (Tree.single? "fail_on" Tree.severity? .high) .high
  let offline ← Tree.withDefault fields "offline" Tree.files? {}
  return { checks, keyringPath, validRepos, orgUrls, provenance, failOn, offline }

end Attestor.Settings
