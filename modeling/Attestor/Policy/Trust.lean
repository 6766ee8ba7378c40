import Attestor.Policy

namespace Attestor.Policy

def fromValidRepository (repositories : List String) (image : ImageReference) : Bool :=
  repositories.any fun repository =>
    !repository.isEmpty && repository.toList.isPrefixOf image.name.toList

def diy (repositories : List String) (image : ImageReference) : Verdict :=
  Verdict.require (fromValidRepository repositories image) .notFromValidRepository

def isBelow (organization repository : List Char) : Bool :=
  repository == organization || (organization ++ ['/']).isPrefixOf repository

def isTrusted (organizations : List String) (repositoryUrl : String) : Bool :=
  let repository := Text.trimEnd '/' repositoryUrl.toList
  ((organizations.map fun url => Text.trimEnd '/' url.toList).filter (!·.isEmpty)).any
    (isBelow · repository)

def org (metadata : MetadataService) (organizations : List String) (image : ImageReference) :
    Verdict := do
  let detail ← (metadata.buildDetail image).mapError .metadata
  Verdict.require (isTrusted organizations detail.repositoryUrl) .untrustedOrganization

def provenBuild (metadata : MetadataService) (image : ImageReference) : Reply CheckError BuildDetail :=
  (metadata.buildDetail image).mapError fun
    | .absent .. => .rejected .noBuildDetail
    | error => .metadata error

def provenance (metadata : MetadataService) (builders projects : List String)
    (image : ImageReference) : Verdict := do
  let detail ← provenBuild metadata image
  Verdict.require (builders.contains detail.buildCreator) (.untrustedBuilder detail.buildCreator)
  Verdict.require (projects.contains detail.projectId) (.untrustedProject detail.projectId)
  Verdict.require (detail.artifacts.any (·.checksum == image.digest)) .noMatchingArtifact

end Attestor.Policy
