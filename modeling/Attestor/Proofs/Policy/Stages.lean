import Attestor.Proofs.Policy.Gates

namespace Attestor

namespace Reply

variable {ε α : Type}

def value? : Reply ε α → Option α
  | .value a => some a
  | _ => none

def told (reply : Reply ε α) : Reply ε Unit :=
  reply >>= fun _ => .value ()

end Reply

namespace Verdict

/-- Of stages that are gone through in order, the first one that does not let pass decides. -/
structure Decides (stages : List Verdict) (outcome : Verdict) : Prop where
  passes : outcome = .value () ↔ ∀ stage ∈ stages, stage = .value ()
  stops : ∀ before stage after, stages = before ++ stage :: after →
    (∀ earlier ∈ before, earlier = .value ()) → stage ≠ .value () → outcome = stage

variable {first outcome other : Verdict} {stages others later : List Verdict}

theorem Decides.nil : Decides [] (.value ()) where
  passes := by simp
  stops := by simp

theorem Decides.cons (goes : first = .value () → Decides later outcome)
    (halts : first ≠ .value () → outcome = first) : Decides (first :: later) outcome := by
  by_cases passed : first = .value ()
  · subst passed
    have rest := goes rfl
    refine ⟨?_, ?_⟩
    · rw [List.forall_mem_cons, rest.passes]
      exact (and_iff_right rfl).symm
    · intro before stage after split earlier failed
      cases before with
      | nil =>
        cases split
        exact absurd rfl failed
      | cons head tail =>
        cases split
        exact rest.stops tail stage after rfl (List.forall_mem_cons.mp earlier).2 failed
  · refine ⟨?_, ?_⟩
    · rw [halts passed, List.forall_mem_cons]
      exact iff_of_false passed fun all => passed all.1
    · intro before stage after split earlier _
      cases before with
      | nil =>
        cases split
        exact halts passed
      | cons head tail =>
        cases split
        exact absurd (List.forall_mem_cons.mp earlier).1 passed

theorem Decides.single (stage : Verdict) : Decides [stage] stage :=
  .cons (fun passed => passed ▸ .nil) fun _ => rfl

/-- A check that asks a service and goes on with the answer has the asking as a stage. -/
theorem Decides.ask {ε α : Type} (wrap : ε → CheckError) {reply : Reply ε α} {next : α → Verdict}
    (continues : ∀ a, reply = .value a → Decides later (next a)) :
    Decides (reply.told.mapError wrap :: later) (reply.mapError wrap >>= next) := by
  cases reply with
  | value a => exact .cons (fun _ => continues a rfl) fun failed => absurd rfl failed
  | failure error =>
    refine .cons (fun passed => ?_) fun _ => rfl
    cases passed
  | never =>
    refine .cons (fun passed => ?_) fun _ => rfl
    cases passed

theorem Decides.gate {condition : Bool} {reason : Rejection} {next : Unit → Verdict}
    (continues : condition = true → Decides later (next ())) :
    Decides (require condition reason :: later) (require condition reason >>= next) := by
  cases condition with
  | true => exact .cons (fun _ => continues rfl) fun failed => absurd rfl failed
  | false =>
    refine .cons (fun passed => ?_) fun _ => rfl
    cases passed

/-- Stages that begin alike come to the same if one of these does not let pass. -/
theorem Decides.eq_of_shared {shared rest rests : List Verdict} (one : Decides (shared ++ rest) outcome)
    (two : Decides (shared ++ rests) other) (stopped : ∃ stage ∈ shared, stage ≠ .value ()) :
    other = outcome := by
  have found : (shared.find? (decide <| · ≠ .value ())).isSome := by
    simpa [List.find?_isSome] using stopped
  obtain ⟨stage, first⟩ := Option.isSome_iff_exists.mp found
  obtain ⟨failed, before, after, rfl, earlier⟩ := List.find?_eq_some_iff_append.mp first
  have passed : ∀ verdict ∈ before, verdict = .value () := by simpa using earlier
  have stopsAt (rest : List Verdict) :
      (before ++ stage :: after) ++ rest = before ++ stage :: (after ++ rest) := by simp
  rw [one.stops _ _ _ (stopsAt rest) passed (of_decide_eq_true failed),
    two.stops _ _ _ (stopsAt rests) passed (of_decide_eq_true failed)]

end Verdict

open Verdict

structure Staged (Stage : Type) where
  all : List Stage
  Evidence : Stage → Type
  judge : (stage : Stage) → Evidence stage → Verdict

namespace Staged

variable {Stage : Type} {check : Staged Stage}

abbrev View (check : Staged Stage) :=
  (stage : Stage) → Option (check.Evidence stage)

/-- The verdict of a stage by itself. With nothing to look at it lets pass, as an earlier one failed. -/
def verdict (check : Staged Stage) (view : check.View) (stage : Stage) : Verdict :=
  (view stage).elim (.value ()) (check.judge stage)

def Reports (check : Staged Stage) (view : check.View) (outcome : Verdict) : Prop :=
  Decides (check.all.map (check.verdict view)) outcome

/-- What two views show is the same for a stage and those before it. -/
def SameThrough (check : Staged Stage) (stage : Stage) (view other : check.View) : Prop :=
  ∃ before after, check.all = before ++ stage :: after ∧
    ∀ earlier ∈ before ++ [stage], view earlier = other earlier

/-- What there is for later stages to look at makes no difference once a stage fails. -/
theorem Reports.eq_of_shared {view other : check.View} {outcome another : Verdict} {stage : Stage}
    (one : check.Reports view outcome) (two : check.Reports other another)
    (same : check.SameThrough stage view other) (failed : check.verdict view stage ≠ .value ()) :
    another = outcome := by
  obtain ⟨before, after, split, shared⟩ := same
  have alike : (before ++ [stage]).map (check.verdict view) =
      (before ++ [stage]).map (check.verdict other) := by
    refine List.map_congr_left fun earlier member => ?_
    rw [verdict, verdict, shared earlier member]
  have parted (view : check.View) : check.all.map (check.verdict view) =
      (before ++ [stage]).map (check.verdict view) ++ after.map (check.verdict view) := by
    rw [split, ← List.map_append, List.append_assoc, List.singleton_append]
  unfold Reports at one two
  rw [parted] at one two
  rw [← alike] at two
  exact one.eq_of_shared two ⟨_, List.mem_map_of_mem (by simp), failed⟩

end Staged

namespace Policy

inductive ReviewStage where
  | build
  | commit
  | branch
  | listed
  | signed
  | merged
  | approved
  | passed

namespace ReviewStage

def Evidence : ReviewStage → Type
  | build => Reply MetadataError Unit
  | commit | branch => Reply RepositoryError Unit
  | listed => String × List CommitRef
  | signed | merged | approved => Bool
  | passed => String

def judge : (stage : ReviewStage) → stage.Evidence → Verdict
  | build, reply => reply.mapError .metadata
  | commit, reply | branch, reply => reply.mapError .repository
  | listed, (url, refs) => require (refs.any (·.url == url)) .notOnDefaultBranch
  | signed, isSigned => require isSigned .notSigned
  | merged, isMerge => require isMerge .notMergeCommit
  | approved, hasApprovals => require hasApprovals .missingRequiredApprovals
  | passed, (status : String) => require (status == "SUCCESS") .notPassedCi

end ReviewStage

def review : Staged ReviewStage where
  all := [.build, .commit, .branch, .listed, .signed, .merged, .approved, .passed]
  Evidence := ReviewStage.Evidence
  judge := ReviewStage.judge

def reviewed? (metadata : MetadataService) (repository : RepositoryService) (image : ImageReference) :
    review.View :=
  let detail? := (metadata.buildDetail image).value?
  let commit? := detail?.bind fun detail => (repository.commit detail).value?
  let branch? := detail?.bind fun detail => (repository.defaultBranch detail).value?
  fun
    | .build => some (metadata.buildDetail image).told
    | .commit => detail?.map fun detail => (repository.commit detail).told
    | .branch => detail?.map fun detail => (repository.defaultBranch detail).told
    | .listed => commit?.bind fun commit => branch?.map fun branch => (commit.url, branch.commitRefs)
    | .signed => commit?.map (·.isSigned)
    | .merged => commit?.map (·.mergingPullRequest?.isSome)
    | .approved => commit?.bind fun commit => commit.mergingPullRequest?.map (·.hasRequiredApprovals)
    | .passed => commit?.map (·.status)

variable {metadata : MetadataService} {repository : RepositoryService} {image : ImageReference}

theorem reviewed_decides (commit : Commit) (branch : Branch) :
    Decides [require (branch.lists commit.url) .notOnDefaultBranch, require commit.isSigned .notSigned,
      require commit.mergingPullRequest?.isSome .notMergeCommit,
      (commit.mergingPullRequest?.map (·.hasRequiredApprovals)).elim (.value ())
        (require · .missingRequiredApprovals),
      require commit.passedCi .notPassedCi] (reviewed commit branch) := by
  unfold reviewed
  refine .gate fun _ => .gate fun _ => ?_
  cases commit.mergingPullRequest? with
  | none => exact .cons (fun passed => by cases passed) fun _ => rfl
  | some request =>
    exact .cons (fun _ => .gate fun _ => .single _) fun failed => absurd rfl failed

theorem review_reports (metadata : MetadataService) (repository : RepositoryService)
    (image : ImageReference) :
    review.Reports (reviewed? metadata repository image) (approved metadata repository image) := by
  unfold Staged.Reports approved
  refine .ask .metadata fun detail built => ?_
  simp only [List.map_cons, Staged.verdict, reviewed?, built, Reply.value?, Option.bind_some]
  refine .ask .repository fun commit found => ?_
  simp only [found, Option.bind_some]
  refine .ask .repository fun branch default => ?_
  simp only [default]
  exact reviewed_decides commit branch

inductive ProvenanceStage where
  | build
  | builder
  | project
  | artifact

namespace ProvenanceStage

def Evidence : ProvenanceStage → Type
  | build => Reply MetadataError Unit
  | builder | project => String
  | artifact => List BuildArtifact

def judge (builders projects : List String) (image : ImageReference) :
    (stage : ProvenanceStage) → stage.Evidence → Verdict
  | build, reply => reply.mapError fun
    | .absent .. => .rejected .noBuildDetail
    | error => .metadata error
  | builder, (creator : String) => require (builders.contains creator) (.untrustedBuilder creator)
  | project, (name : String) => require (projects.contains name) (.untrustedProject name)
  | artifact, (artifacts : List BuildArtifact) =>
    require (artifacts.any (·.checksum == image.digest)) .noMatchingArtifact

end ProvenanceStage

def proving (builders projects : List String) (image : ImageReference) : Staged ProvenanceStage where
  all := [.build, .builder, .project, .artifact]
  Evidence := ProvenanceStage.Evidence
  judge := ProvenanceStage.judge builders projects image

def proved? (metadata : MetadataService) (builders projects : List String) (image : ImageReference) :
    (proving builders projects image).View :=
  let detail? := (metadata.buildDetail image).value?
  fun
    | .build => some (metadata.buildDetail image).told
    | .builder => detail?.map (·.buildCreator)
    | .project => detail?.map (·.projectId)
    | .artifact => detail?.map (·.artifacts)

theorem proving_reports (metadata : MetadataService) (builders projects : List String)
    (image : ImageReference) :
    (proving builders projects image).Reports (proved? metadata builders projects image)
      (provenance metadata builders projects image) := by
  unfold Staged.Reports provenance provenBuild
  refine .ask _ fun detail built => ?_
  simp only [List.map_cons, Staged.verdict, proved?, built, Reply.value?]
  exact .gate fun _ => .gate fun _ => .single _

/-- Two lists of pull requests with the same first one that was merged as a commit, or both without
one. -/
def SameMerge (url : String) (requests others : List PullRequest) : Prop :=
  (∀ request ∈ requests ++ others, request.mergeCommit.url ≠ url) ∨
    ∃ request before after earlier later, request.mergeCommit.url = url ∧
      requests = before ++ request :: after ∧ others = earlier ++ request :: later ∧
      ∀ other ∈ before ++ earlier, other.mergeCommit.url ≠ url

theorem mergingPullRequest_eq_some_iff {commit : Commit} {request : PullRequest} :
    commit.mergingPullRequest? = some request ↔ request.mergeCommit.url = commit.url ∧
      ∃ before after, commit.associatedPullRequests = before ++ request :: after ∧
        ∀ other ∈ before, other.mergeCommit.url ≠ commit.url := by
  simp [Commit.mergingPullRequest?, List.find?_eq_some_iff_append]

theorem SameMerge.mergingPullRequest_eq {commit : Commit} {others : List PullRequest}
    (same : SameMerge commit.url commit.associatedPullRequests others) :
    ({ commit with associatedPullRequests := others } : Commit).mergingPullRequest? =
      commit.mergingPullRequest? := by
  rcases same with none_ | ⟨request, before, after, earlier, later, merge, one, two, fresh⟩
  · have missing (requests : List PullRequest) (others : ∀ request ∈ requests,
        request.mergeCommit.url ≠ commit.url) :
        requests.find? (·.mergeCommit.url == commit.url) = none := by
      simpa using others
    obtain ⟨own, new⟩ := List.forall_mem_append.mp none_
    exact (missing _ new).trans (missing _ own).symm
  · obtain ⟨own, new⟩ := List.forall_mem_append.mp fresh
    rw [mergingPullRequest_eq_some_iff.mpr ⟨merge, before, after, one, own⟩]
    exact mergingPullRequest_eq_some_iff.mpr ⟨merge, earlier, later, two, new⟩

end Policy

def RepositoryService.withRequests (repository : RepositoryService)
    (requests : Commit → List PullRequest) : RepositoryService :=
  { repository with
    commit := fun detail => do
      let commit ← repository.commit detail
      return { commit with associatedPullRequests := requests commit } }

namespace Policy

theorem approved_withRequests (metadata : MetadataService) {repository : RepositoryService}
    (image : ImageReference) {requests : Commit → List PullRequest}
    (same : ∀ detail commit, repository.commit detail = .value commit →
      SameMerge commit.url commit.associatedPullRequests (requests commit)) :
    approved metadata (repository.withRequests requests) image =
      approved metadata repository image := by
  unfold approved
  cases metadata.buildDetail image with
  | failure error => rfl
  | never => rfl
  | value detail =>
    simp only [Reply.mapError, Reply.value_bind, RepositoryService.withRequests]
    cases found : repository.commit detail with
    | failure error => rfl
    | never => rfl
    | value commit =>
      have first := (same detail commit found).mergingPullRequest_eq
      have alike (branch : Branch) :
          reviewed { commit with associatedPullRequests := requests commit } branch =
            reviewed commit branch := by
        simp only [reviewed, first, Commit.passedCi]
      exact congrArg (Reply.mapError _ (repository.defaultBranch detail) >>= ·) (funext alike)

/-- The source is reviewed, and a build is proven, in stages of which the earliest that fails is
reported. Of the pull requests only the first that was merged as the commit counts, and nothing that
there is for later stages changes what an earlier one reports. -/
theorem stages_decide (metadata : MetadataService) (repository : RepositoryService)
    (builders projects : List String) (image : ImageReference) :
    (review.Reports (reviewed? metadata repository image) (approved metadata repository image) ∧
      (∀ requests : Commit → List PullRequest,
        (∀ detail commit, repository.commit detail = .value commit →
          SameMerge commit.url commit.associatedPullRequests (requests commit)) →
        approved metadata (repository.withRequests requests) image =
          approved metadata repository image) ∧
      ∀ other another stage,
        review.SameThrough stage (reviewed? metadata repository image) (reviewed? other another image) →
        review.verdict (reviewed? metadata repository image) stage ≠ .value () →
        approved other another image = approved metadata repository image) ∧
    (proving builders projects image).Reports (proved? metadata builders projects image)
        (provenance metadata builders projects image) ∧
      ∀ other stage,
        (proving builders projects image).SameThrough stage (proved? metadata builders projects image)
          (proved? other builders projects image) →
        (proving builders projects image).verdict (proved? metadata builders projects image) stage ≠
          .value () →
        provenance other builders projects image = provenance metadata builders projects image := by
  refine ⟨⟨review_reports metadata repository image, ?_, ?_⟩,
    proving_reports metadata builders projects image, ?_⟩
  · intro requests same
    exact approved_withRequests metadata image same
  · intro other another stage same failed
    exact (review_reports ..).eq_of_shared (review_reports ..) same failed
  · intro other stage same failed
    exact (proving_reports ..).eq_of_shared (proving_reports ..) same failed

theorem stages_decide_unsigned :
    let image : ImageReference := { name := "gcr.io/project/app", digest := "sha256:ab" }
    let detail : BuildDetail := { repositoryUrl := "https://github.com/grafeas/voucher", commit := "abc" }
    let builtBy (detail : BuildDetail) :=
      Catalogue.service { entries := [(image, { buildDetail := some detail })] }
    let branch : Branch := { name := "production", commitRefs := [{ url := detail.commitUrl }] }
    let serving (commit : Commit) : RepositoryService :=
      { commit := fun _ => .value commit, defaultBranch := fun _ => .value branch }
    let merge : PullRequest := { mergeCommit := { url := detail.commitUrl } }
    let bare : Commit := { url := detail.commitUrl }
    let merged : Commit := {
      url := detail.commitUrl
      status := "SUCCESS"
      associatedPullRequests := [{}, merge, { merge with hasRequiredApprovals := true }] }
    let elsewhere : BuildDetail := { detail with projectId := "project" }
    approved (builtBy detail) (serving merged) image = .failure (.rejected .notSigned) ∧
      approved (builtBy detail) (serving bare) image =
        approved (builtBy detail) (serving merged) image ∧
      approved (builtBy detail) ((serving merged).withRequests fun _ => [merge]) image =
        approved (builtBy detail) (serving merged) image ∧
      provenance (builtBy detail) [] ["project"] image = .failure (.rejected (.untrustedBuilder "")) ∧
      provenance (builtBy elsewhere) [] ["project"] image =
        provenance (builtBy detail) [] ["project"] image := by
  intro image detail builtBy branch serving merge bare merged elsewhere
  obtain ⟨⟨_, requests, later⟩, _, proven⟩ :=
    stages_decide (builtBy detail) (serving merged) [] ["project"] image
  refine ⟨by decide +kernel, ?_, ?_, by decide +kernel, ?_⟩
  · refine later (builtBy detail) (serving bare) .signed ?_ (by decide +kernel)
    refine ⟨[.build, .commit, .branch, .listed], [.merged, .approved, .passed], rfl, ?_⟩
    simp only [List.cons_append, List.nil_append, List.forall_mem_cons, List.not_mem_nil]
    exact ⟨rfl, rfl, rfl, rfl, rfl, by simp⟩
  · refine requests _ fun _ commit found => ?_
    cases found
    refine .inr ⟨merge, [{}], [{ merge with hasRequiredApprovals := true }], [], [], rfl, rfl, rfl, ?_⟩
    decide +kernel
  · refine proven (builtBy elsewhere) .builder ?_ (by decide +kernel)
    refine ⟨[.build], [.project, .artifact], rfl, ?_⟩
    simp only [List.cons_append, List.nil_append, List.forall_mem_cons, List.not_mem_nil]
    exact ⟨rfl, rfl, by simp⟩

end Policy

end Attestor
