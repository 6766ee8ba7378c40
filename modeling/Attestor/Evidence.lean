import Attestor.Evidence.Build
import Attestor.Evidence.Source
import Attestor.Evidence.Vulnerability

namespace Attestor

structure ImageEvidence where
  buildDetail : Option BuildDetail := none
  /-- `none` for an image that was never scanned, an empty list for a scan without findings. -/
  vulnerabilities : Option (List Vulnerability) := none
deriving DecidableEq, Repr

namespace ImageEvidence

def ofJson? (json : Json) : Option ImageEvidence := do
  let fields ← json.fields? ["build_detail", "vulnerabilities"]
  let buildDetail ← fields.optional "build_detail" BuildDetail.ofJson?
  let vulnerabilities ← fields.optional "vulnerabilities" (Json.list? Vulnerability.ofJson?)
  return { buildDetail, vulnerabilities }

def toJson (evidence : ImageEvidence) : Json :=
  .record [
    ("build_detail", .ofOption BuildDetail.toJson evidence.buildDetail),
    ("vulnerabilities", .ofOption (.ofList Vulnerability.toJson) evidence.vulnerabilities)]

end ImageEvidence

structure RepositoryEvidence where
  commits : List (String × Commit) := []
  defaultBranches : List (String × Branch) := []
deriving DecidableEq, Repr

namespace RepositoryEvidence

def ofJson? (json : Json) : Option RepositoryEvidence := do
  let fields ← json.fields? ["commits", "default_branches"]
  let commits ← fields.withDefault "commits" (Json.dictionary? Commit.ofJson?) []
  let defaultBranches ← fields.withDefault "default_branches" (Json.dictionary? Branch.ofJson?) []
  return { commits, defaultBranches }

def toJson (evidence : RepositoryEvidence) : Json :=
  .record [
    ("commits", .ofDictionary Commit.toJson evidence.commits),
    ("default_branches", .ofDictionary Branch.toJson evidence.defaultBranches)]

end RepositoryEvidence

end Attestor
