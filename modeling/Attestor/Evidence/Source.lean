import Attestor.Json.Record

namespace Attestor

structure CommitRef where
  url : String
deriving DecidableEq, Repr

namespace CommitRef

def ofJson? (json : Json) : Option CommitRef := do
  let fields ← json.fields? ["url"]
  let url ← fields.required "url" Json.text?
  return { url }

def toJson (ref : CommitRef) : Json :=
  .record [("url", .text ref.url)]

end CommitRef

structure PullRequest where
  isMerged : Bool := false
  mergeCommit : CommitRef := { url := "" }
  hasRequiredApprovals : Bool := false
deriving DecidableEq, Repr

namespace PullRequest

def ofJson? (json : Json) : Option PullRequest := do
  let fields ← json.fields? ["is_merged", "merge_commit", "has_required_approvals"]
  let isMerged ← fields.withDefault "is_merged" Json.bool? false
  let mergeCommit ← fields.withDefault "merge_commit" CommitRef.ofJson? { url := "" }
  let hasRequiredApprovals ← fields.withDefault "has_required_approvals" Json.bool? false
  return { isMerged, mergeCommit, hasRequiredApprovals }

def toJson (request : PullRequest) : Json :=
  .record [
    ("is_merged", .bool request.isMerged),
    ("merge_commit", request.mergeCommit.toJson),
    ("has_required_approvals", .bool request.hasRequiredApprovals)]

end PullRequest

structure Commit where
  url : String
  status : String := ""
  isSigned : Bool := false
  associatedPullRequests : List PullRequest := []
deriving DecidableEq, Repr

namespace Commit

def ofJson? (json : Json) : Option Commit := do
  let fields ← json.fields? ["url", "status", "is_signed", "associated_pull_requests"]
  let url ← fields.required "url" Json.text?
  let status ← fields.withDefault "status" Json.text? ""
  let isSigned ← fields.withDefault "is_signed" Json.bool? false
  let associatedPullRequests ←
    fields.withDefault "associated_pull_requests" (Json.list? PullRequest.ofJson?) []
  return { url, status, isSigned, associatedPullRequests }

def toJson (commit : Commit) : Json :=
  .record [
    ("url", .text commit.url),
    ("status", .text commit.status),
    ("is_signed", .bool commit.isSigned),
    ("associated_pull_requests", .ofList PullRequest.toJson commit.associatedPullRequests)]

def passedCi (commit : Commit) : Bool :=
  commit.status == "SUCCESS"

def mergingPullRequest? (commit : Commit) : Option PullRequest :=
  commit.associatedPullRequests.find? (·.mergeCommit.url == commit.url)

end Commit

structure Branch where
  name : String
  commitRefs : List CommitRef := []
deriving DecidableEq, Repr

namespace Branch

def ofJson? (json : Json) : Option Branch := do
  let fields ← json.fields? ["name", "commit_refs"]
  let name ← fields.required "name" Json.text?
  let commitRefs ← fields.withDefault "commit_refs" (Json.list? CommitRef.ofJson?) []
  return { name, commitRefs }

def toJson (branch : Branch) : Json :=
  .record [
    ("name", .text branch.name),
    ("commit_refs", .ofList CommitRef.toJson branch.commitRefs)]

def lists (branch : Branch) (url : String) : Bool :=
  branch.commitRefs.any (·.url == url)

end Branch

end Attestor
