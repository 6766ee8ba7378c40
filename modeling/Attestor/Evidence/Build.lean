import Attestor.Json.Record
import Attestor.Text.Segments

namespace Attestor

structure BuildArtifact where
  id : String
  checksum : String
deriving DecidableEq, Repr

namespace BuildArtifact

def ofJson? (json : Json) : Option BuildArtifact := do
  let fields ← json.fields? ["id", "checksum"]
  let id ← fields.required "id" Json.text?
  let checksum ← fields.required "checksum" Json.text?
  return { id, checksum }

def toJson (artifact : BuildArtifact) : Json :=
  .record [("id", .text artifact.id), ("checksum", .text artifact.checksum)]

end BuildArtifact

structure BuildDetail where
  repositoryUrl : String
  commit : String
  projectId : String := ""
  buildCreator : String := ""
  buildUrl : String := ""
  artifacts : List BuildArtifact := []
deriving DecidableEq, Repr

namespace BuildDetail

def fieldNames : List String :=
  ["repository_url", "commit", "project_id", "build_creator", "build_url", "artifacts"]

def ofJson? (json : Json) : Option BuildDetail := do
  let fields ← json.fields? fieldNames
  let repositoryUrl ← fields.required "repository_url" Json.text?
  let commit ← fields.required "commit" Json.text?
  let projectId ← fields.withDefault "project_id" Json.text? ""
  let buildCreator ← fields.withDefault "build_creator" Json.text? ""
  let buildUrl ← fields.withDefault "build_url" Json.text? ""
  let artifacts ← fields.withDefault "artifacts" (Json.list? BuildArtifact.ofJson?) []
  return { repositoryUrl, commit, projectId, buildCreator, buildUrl, artifacts }

def toJson (detail : BuildDetail) : Json :=
  .record [
    ("repository_url", .text detail.repositoryUrl),
    ("commit", .text detail.commit),
    ("project_id", .text detail.projectId),
    ("build_creator", .text detail.buildCreator),
    ("build_url", .text detail.buildUrl),
    ("artifacts", .ofList BuildArtifact.toJson detail.artifacts)]

def repository (detail : BuildDetail) : String :=
  Text.trimSlashes detail.repositoryUrl

def commitUrl (detail : BuildDetail) : String :=
  detail.repository ++ "/commit/" ++ detail.commit

end BuildDetail

end Attestor
