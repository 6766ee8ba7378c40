import Attestor.Json.Record
import Attestor.Settings

namespace Attestor

/-- A field that may be `null`, and may be absent from an object but not from an array. -/
def Json.optionalMember {α : Type} (json : Json) (fields : Json.Fields) (name : String)
    (value? : Json → Option α) : Option (Option α) :=
  match json with
  | .arr _ => fields.required name (Json.nullable? value?)
  | _ => fields.optional name value?

def Json.texts? : Json → Option (List String) :=
  Json.list? Json.text?

def Json.ofTexts (texts : List String) : Json :=
  .ofList .text texts

namespace CheckSettings

def ofJson? (json : Json) : Option CheckSettings := do
  let standard : CheckSettings := {}
  let fields ← json.fields? ["enabled", "required", "dry_run"]
  let enabled ← fields.withDefault "enabled" Json.texts? standard.enabled
  let required ← fields.withDefault "required" Json.texts? []
  let dryRun ← fields.withDefault "dry_run" Json.bool? false
  return { enabled, required, dryRun }

def toJson (settings : CheckSettings) : Json :=
  .record [
    ("enabled", .ofTexts settings.enabled),
    ("required", .ofTexts settings.required),
    ("dry_run", .bool settings.dryRun)]

end CheckSettings

namespace ProvenanceSettings

def ofJson? (json : Json) : Option ProvenanceSettings := do
  let fields ← json.fields? ["trusted_builder_identities", "trusted_projects"]
  let trustedBuilderIdentities ← fields.withDefault "trusted_builder_identities" Json.texts? []
  let trustedProjects ← fields.withDefault "trusted_projects" Json.texts? []
  return { trustedBuilderIdentities, trustedProjects }

def toJson (settings : ProvenanceSettings) : Json :=
  .record [
    ("trusted_builder_identities", .ofTexts settings.trustedBuilderIdentities),
    ("trusted_projects", .ofTexts settings.trustedProjects)]

end ProvenanceSettings

namespace FileSettings

def ofJson? (json : Json) : Option FileSettings := do
  let fields ← json.fields? ["metadata_path", "repository_path", "attestations_path"]
  let metadataPath ← json.optionalMember fields "metadata_path" Json.text?
  let repositoryPath ← json.optionalMember fields "repository_path" Json.text?
  let attestationsPath ← json.optionalMember fields "attestations_path" Json.text?
  return { metadataPath, repositoryPath, attestationsPath }

def toJson (settings : FileSettings) : Json :=
  .record [
    ("metadata_path", .ofOption .text settings.metadataPath),
    ("repository_path", .ofOption .text settings.repositoryPath),
    ("attestations_path", .ofOption .text settings.attestationsPath)]

end FileSettings

namespace Settings

def section? {α : Type} (name : String) (value? : Json → Option α) (absent : α) (json : Json) :
    Option α := do
  let fields ← json.fields? [name]
  fields.withDefault name value? absent

def fieldNames : List String :=
  ["checks", "keyring_path", "diy", "org", "provenance", "snakeoil", "offline"]

def ofJson? (json : Json) : Option Settings := do
  let fields ← json.fields? fieldNames
  let checks ← fields.withDefault "checks" CheckSettings.ofJson? {}
  let keyringPath ← json.optionalMember fields "keyring_path" Json.text?
  let validRepos ← fields.withDefault "diy" (section? "valid_repos" Json.texts? []) []
  let orgUrls ← fields.withDefault "org" (section? "urls" Json.texts? []) []
  let provenance ← fields.withDefault "provenance" ProvenanceSettings.ofJson? {}
  let failOn ← fields.withDefault "snakeoil" (section? "fail_on" Severity.ofJson? .high) .high
  let offline ← fields.withDefault "offline" FileSettings.ofJson? {}
  return { checks, keyringPath, validRepos, orgUrls, provenance, failOn, offline }

def toJson (settings : Settings) : Json :=
  .record [
    ("checks", settings.checks.toJson),
    ("keyring_path", .ofOption .text settings.keyringPath),
    ("diy", .record [("valid_repos", .ofTexts settings.validRepos)]),
    ("org", .record [("urls", .ofTexts settings.orgUrls)]),
    ("provenance", settings.provenance.toJson),
    ("snakeoil", .record [("fail_on", settings.failOn.toJson)]),
    ("offline", settings.offline.toJson)]

end Settings

end Attestor
