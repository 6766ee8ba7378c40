import Attestor.Proofs.Policy.Stages

namespace Attestor

/-- A commit counts as approved under an address: the branch lists the address, an approved pull request
was merged as it, and the commit is signed and has passed its checks. -/
structure Commit.ApprovedAs (url : String) (commit : Commit) (branch : Branch) : Prop where
  listed : ∃ ref ∈ branch.commitRefs, ref.url = url
  merged : ∃ request ∈ commit.associatedPullRequests,
    request.mergeCommit.url = url ∧ request.hasRequiredApprovals = true
  signed : commit.isSigned = true
  passed : commit.status = "SUCCESS"

namespace Policy

open Verdict

theorem mergingPullRequest_eq_none_iff {commit : Commit} :
    commit.mergingPullRequest? = none ↔
      ∀ request ∈ commit.associatedPullRequests, request.mergeCommit.url ≠ commit.url := by
  simp [Commit.mergingPullRequest?]

theorem reviewed_passes_iff {commit : Commit} {branch : Branch} :
    reviewed commit branch = .value () ↔ commit.ApprovedAs commit.url branch ∧
      ∀ request, commit.mergingPullRequest? = some request → request.hasRequiredApprovals = true := by
  have lists : branch.lists commit.url = true ↔ ∃ ref ∈ branch.commitRefs, ref.url = commit.url := by
    simp [Branch.lists]
  have passedCi : commit.passedCi = true ↔ commit.status = "SUCCESS" := by simp [Commit.passedCi]
  unfold reviewed
  cases first : commit.mergingPullRequest? with
  | none =>
    have never := mergingPullRequest_eq_none_iff.mp first
    simp only [require_bind_passes_iff, Reply.failure_bind, reduceCtorEq, and_false, false_iff]
    rintro ⟨⟨_, ⟨request, member, merge, _⟩, _, _⟩, _⟩
    exact never request member merge
  | some request =>
    obtain ⟨merge, before, after, split, _⟩ := mergingPullRequest_eq_some_iff.mp first
    simp only [require_bind_passes_iff, require_passes_iff, lists, passedCi, Option.some.injEq,
      forall_eq']
    constructor
    · rintro ⟨listed, signed, approved, passed⟩
      exact ⟨⟨listed, ⟨request, by simp [split], merge, approved⟩, signed, passed⟩, approved⟩
    · rintro ⟨⟨listed, _, signed, passed⟩, approved⟩
      exact ⟨listed, signed, approved, passed⟩

theorem approved_passes_iff {metadata : MetadataService} {repository : RepositoryService}
    {image : ImageReference} :
    approved metadata repository image = .value () ↔ ∃ detail commit branch,
      metadata.buildDetail image = .value detail ∧ repository.commit detail = .value commit ∧
        repository.defaultBranch detail = .value branch ∧ reviewed commit branch = .value () := by
  simp only [approved, Reply.bind_value_iff, Reply.mapError_value_iff]
  constructor
  · rintro ⟨detail, built, commit, found, branch, default, passed⟩
    exact ⟨detail, commit, branch, built, found, default, passed⟩
  · rintro ⟨detail, commit, branch, built, found, default, passed⟩
    exact ⟨detail, built, commit, found, branch, default, passed⟩

/-- What the services hold about an image: its build, the record of the commit under the address of the
revision that was built, and the default branch of its repository. -/
structure Recorded (catalogue : Catalogue) (evidence : RepositoryEvidence) (image : ImageReference)
    (detail : BuildDetail) (commit : Commit) (branch : Branch) : Prop where
  build : (catalogue.evidence? image).bind (·.buildDetail) = some detail
  commit : evidence.commits.lookup detail.commitUrl = some commit
  branch : evidence.defaultBranches.lookup detail.repository = some branch

theorem buildDetail_value_iff {catalogue : Catalogue} {image : ImageReference} {detail : BuildDetail} :
    catalogue.buildDetail image = .value detail ↔
      (catalogue.evidence? image).bind (·.buildDetail) = some detail := by
  cases found : (catalogue.evidence? image).bind (·.buildDetail) <;>
    simp [Catalogue.buildDetail, found]

theorem commit_value_iff {evidence : RepositoryEvidence} {detail : BuildDetail} {commit : Commit} :
    evidence.commit detail = .value commit ↔
      evidence.commits.lookup detail.commitUrl = some commit := by
  cases found : evidence.commits.lookup detail.commitUrl <;> simp [RepositoryEvidence.commit, found]

theorem defaultBranch_value_iff {evidence : RepositoryEvidence} {detail : BuildDetail}
    {branch : Branch} :
    evidence.defaultBranch detail = .value branch ↔
      evidence.defaultBranches.lookup detail.repository = some branch := by
  cases found : evidence.defaultBranches.lookup detail.repository <;>
    simp [RepositoryEvidence.defaultBranch, found]

/-- The review passes an image exactly if the record that is found for its revision is approved under
the address that this record states. Of the revision itself that says that its record is signed and has
passed its checks, and all the rest if the record states the address that it is found under. -/
theorem approved_recorded_iff (catalogue : Catalogue) (evidence : RepositoryEvidence)
    (image : ImageReference) :
    (approved catalogue.service evidence.service image = .value () ↔
      ∃ detail commit branch, Recorded catalogue evidence image detail commit branch ∧
        commit.ApprovedAs commit.url branch ∧
        ∀ request, commit.mergingPullRequest? = some request → request.hasRequiredApprovals = true) ∧
    (approved catalogue.service evidence.service image = .value () →
      ∃ detail commit branch, Recorded catalogue evidence image detail commit branch ∧
        commit.isSigned = true ∧ commit.status = "SUCCESS" ∧
        (commit.url = detail.commitUrl → commit.ApprovedAs detail.commitUrl branch)) := by
  have passes : approved catalogue.service evidence.service image = .value () ↔
      ∃ detail commit branch, Recorded catalogue evidence image detail commit branch ∧
        commit.ApprovedAs commit.url branch ∧
        ∀ request, commit.mergingPullRequest? = some request → request.hasRequiredApprovals = true := by
    rw [approved_passes_iff]
    simp only [Catalogue.service, RepositoryEvidence.service, buildDetail_value_iff, commit_value_iff,
      defaultBranch_value_iff, reviewed_passes_iff]
    constructor
    · rintro ⟨detail, commit, branch, built, found, default, reviewed⟩
      exact ⟨detail, commit, branch, ⟨built, found, default⟩, reviewed⟩
    · rintro ⟨detail, commit, branch, ⟨built, found, default⟩, reviewed⟩
      exact ⟨detail, commit, branch, built, found, default, reviewed⟩
  refine ⟨passes, fun passed => ?_⟩
  obtain ⟨detail, commit, branch, recorded, approved, _⟩ := passes.mp passed
  exact ⟨detail, commit, branch, recorded, approved.signed, approved.passed, fun same => same ▸ approved⟩

/-- The record that is found for the revision states another address. The image passes, though the branch
does not list the revision and no pull request was merged as it. -/
theorem approved_recorded_iff_misfiled :
    let image : ImageReference := { name := "gcr.io/project/app", digest := "sha256:ab" }
    let detail : BuildDetail := { repositoryUrl := "https://github.com/grafeas/voucher", commit := "abc" }
    let other := "https://github.com/grafeas/voucher/commit/def"
    let commit : Commit := {
      url := other
      status := "SUCCESS"
      isSigned := true
      associatedPullRequests := [{ mergeCommit := { url := other }, hasRequiredApprovals := true }] }
    let branch : Branch := { name := "production", commitRefs := [{ url := other }] }
    let catalogue : Catalogue := { entries := [(image, { buildDetail := some detail })] }
    let evidence : RepositoryEvidence := {
      commits := [(detail.commitUrl, commit)]
      defaultBranches := [(detail.repository, branch)] }
    approved catalogue.service evidence.service image = .value () ∧
      Recorded catalogue evidence image detail commit branch ∧
      ¬ commit.ApprovedAs detail.commitUrl branch := by
  intro image detail other commit branch catalogue evidence
  have recorded : Recorded catalogue evidence image detail commit branch :=
    ⟨by simp [catalogue, Catalogue.evidence?], by simp [evidence], by simp [evidence]⟩
  have approved : commit.ApprovedAs commit.url branch :=
    ⟨⟨_, List.mem_singleton_self _, rfl⟩, ⟨_, List.mem_singleton_self _, rfl, rfl⟩, rfl, rfl⟩
  have first : ∀ request, commit.mergingPullRequest? = some request →
      request.hasRequiredApprovals = true := by
    intro request found
    have member := List.mem_of_find?_eq_some found
    rw [List.mem_singleton.mp member]
  refine ⟨(approved_recorded_iff ..).1.mpr ⟨_, _, _, recorded, approved, first⟩, recorded, ?_⟩
  rintro ⟨⟨ref, listed, same⟩, _⟩
  rw [List.mem_singleton.mp listed] at same
  revert same
  decide +kernel

end Policy

end Attestor
