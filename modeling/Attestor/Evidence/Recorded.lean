import Attestor.Evidence
import Attestor.Metadata
import Attestor.Payload
import Attestor.Repository

namespace Attestor

/-- Evidence by image; the first entry of an image counts. -/
structure Catalogue where
  entries : List (ImageReference × ImageEvidence) := []
deriving DecidableEq, Repr

namespace Catalogue

def evidence? (catalogue : Catalogue) (image : ImageReference) : Option ImageEvidence :=
  catalogue.entries.lookup image

/-- Files evidence under the images that its keys name; later keys replace earlier ones. -/
def ofEntries (entries : List (String × ImageEvidence)) : Except ImageError Catalogue :=
  entries.foldlM (fun catalogue (reference, evidence) => do
    let image ← ImageReference.parse reference
    return { entries := (image, evidence) :: catalogue.entries }) {}

def readDocument? (bytes : List UInt8) : Option (List (String × ImageEvidence)) :=
  (Json.ofBytes? bytes).bind (Json.dictionary? ImageEvidence.ofJson?)

def vulnerabilities (catalogue : Catalogue) (image : ImageReference) :
    Reply MetadataError (List Vulnerability) :=
  match (catalogue.evidence? image).bind (·.vulnerabilities) with
  | some findings => .value findings
  | none => .failure (.absent .vulnerability s!"no vulnerability scan recorded for {image.canonical}")

def buildDetail (catalogue : Catalogue) (image : ImageReference) : Reply MetadataError BuildDetail :=
  match (catalogue.evidence? image).bind (·.buildDetail) with
  | some detail => .value detail
  | none => .failure (.absent .buildDetail s!"no build recorded for {image.canonical}")

def service (catalogue : Catalogue) : MetadataService where
  canAttest := true
  payloadBody image := .ok (Payload.ofImage image).body
  vulnerabilities := catalogue.vulnerabilities
  buildDetail := catalogue.buildDetail
  submit image attestation store := .value (attestation, store.add image attestation)
  attestations image store := .value (store.attestations image)

end Catalogue

namespace RepositoryEvidence

def readDocument? (bytes : List UInt8) : Option RepositoryEvidence :=
  (Json.ofBytes? bytes).bind ofJson?

def commit (evidence : RepositoryEvidence) (detail : BuildDetail) : Reply RepositoryError Commit :=
  match evidence.commits.lookup detail.commitUrl with
  | some commit => .value commit
  | none => .failure (.commitNotFound detail.commitUrl)

def defaultBranch (evidence : RepositoryEvidence) (detail : BuildDetail) :
    Reply RepositoryError Branch :=
  match evidence.defaultBranches.lookup detail.repository with
  | some branch => .value branch
  | none => .failure (.branchNotFound detail.repository)

def service (evidence : RepositoryEvidence) : RepositoryService where
  commit := evidence.commit
  defaultBranch := evidence.defaultBranch

end RepositoryEvidence

end Attestor
