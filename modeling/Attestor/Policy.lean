import Attestor.Metadata
import Attestor.Repository
import Attestor.Text.Quoted

namespace Attestor

inductive Rejection where
  | notOnDefaultBranch
  | notSigned
  | notMergeCommit
  | missingRequiredApprovals
  | notPassedCi
  | notFromValidRepository
  | untrustedOrganization
  | noBuildDetail
  | untrustedBuilder (identity : String)
  | untrustedProject (project : String)
  | noMatchingArtifact
  | vulnerable (count : Nat) (names : List String)
deriving DecidableEq, Repr

namespace Rejection

def message : Rejection → String
  | notOnDefaultBranch => "commit is not on the default branch"
  | notSigned => "commit is not signed"
  | notMergeCommit => "commit is not a merge commit of a pull request"
  | missingRequiredApprovals => "pull request is missing required approvals"
  | notPassedCi => "commit has not passed CI"
  | notFromValidRepository => "image is not from a valid repository"
  | untrustedOrganization => "image was not built from a trusted organization"
  | noBuildDetail => "image has no build detail"
  | untrustedBuilder identity => s!"image was built by an untrusted builder `{identity}`"
  | untrustedProject project => s!"image was built in an untrusted project `{project}`"
  | noMatchingArtifact => "no build artifact matches the image digest"
  | vulnerable count names =>
    s!"image has {count} vulnerabilities at or above the threshold: " ++ ", ".intercalate names

def diagnostic : Rejection → String
  | notOnDefaultBranch => "NotOnDefaultBranch"
  | notSigned => "NotSigned"
  | notMergeCommit => "NotMergeCommit"
  | missingRequiredApprovals => "MissingRequiredApprovals"
  | notPassedCi => "NotPassedCi"
  | notFromValidRepository => "NotFromValidRepository"
  | untrustedOrganization => "UntrustedOrganization"
  | noBuildDetail => "NoBuildDetail"
  | untrustedBuilder identity => "UntrustedBuilder(" ++ Text.quoted identity ++ ")"
  | untrustedProject project => "UntrustedProject(" ++ Text.quoted project ++ ")"
  | noMatchingArtifact => "NoMatchingArtifact"
  | vulnerable count names =>
    s!"Vulnerable \x7b count: {count}, names: " ++ Text.quotedList names ++ " \x7d"

end Rejection

inductive CheckError where
  | rejected (reason : Rejection)
  | metadata (error : MetadataError)
  | repository (error : RepositoryError)
  | cancelled
deriving DecidableEq, Repr

namespace CheckError

def message : CheckError → String
  | rejected reason => reason.message
  | metadata error => error.message
  | repository error => error.message
  | cancelled => "check cancelled"

def explanation : CheckError → String
  | rejected reason => reason.message
  | metadata error => error.explanation
  | repository error => error.explanation
  | cancelled => "check cancelled"

end CheckError

abbrev Verdict := Reply CheckError Unit

namespace Verdict

def require (condition : Bool) (otherwise : Rejection) : Verdict :=
  if condition then .value () else .failure (.rejected otherwise)

end Verdict

end Attestor
