import Attestor.Policy

namespace Attestor.Policy

def reviewed (commit : Commit) (branch : Branch) : Verdict := do
  Verdict.require (branch.lists commit.url) .notOnDefaultBranch
  Verdict.require commit.isSigned .notSigned
  match commit.mergingPullRequest? with
  | none => .failure (.rejected .notMergeCommit)
  | some request => Verdict.require request.hasRequiredApprovals .missingRequiredApprovals
  Verdict.require commit.passedCi .notPassedCi

def approved (metadata : MetadataService) (repository : RepositoryService)
    (image : ImageReference) : Verdict := do
  let detail ← (metadata.buildDetail image).mapError .metadata
  let commit ← (repository.commit detail).mapError .repository
  let branch ← (repository.defaultBranch detail).mapError .repository
  reviewed commit branch

end Attestor.Policy
