import Attestor.Check
import Attestor.Proofs.Evidence.Catalogue
import Attestor.Proofs.Policy.Approval
import Attestor.Proofs.Policy.Organizations

namespace Attestor

open Results

namespace Text

def withSlashes (url : String) (count : Nat) : String :=
  url ++ String.ofList (List.replicate count '/')

theorem trimEnd_withSlashes (url : String) (count : Nat) :
    trimEnd '/' (withSlashes url count).toList = trimEnd '/' url.toList := by
  rw [withSlashes, String.toList_append, String.toList_ofList, trimEnd_append_copies]

end Text

namespace BuildDetail

def withSlashes (detail : BuildDetail) (count : Nat) : BuildDetail :=
  { detail with repositoryUrl := Text.withSlashes detail.repositoryUrl count }

theorem repository_withSlashes (detail : BuildDetail) (count : Nat) :
    (detail.withSlashes count).repository = detail.repository := by
  simp only [repository, Text.trimSlashes, withSlashes, Text.trimEnd_withSlashes]

theorem commitUrl_withSlashes (detail : BuildDetail) (count : Nat) :
    (detail.withSlashes count).commitUrl = detail.commitUrl := by
  simp only [commitUrl, repository_withSlashes]
  rfl

end BuildDetail

def ImageEvidence.withSlashes (evidence : ImageEvidence) (count : Nat) : ImageEvidence :=
  { evidence with buildDetail := evidence.buildDetail.map (·.withSlashes count) }

def Settings.withSlashes (settings : Settings) (counts : Nat → Nat) : Settings :=
  { settings with
    orgUrls := settings.orgUrls.mapIdx fun place url => Text.withSlashes url (counts place) }

namespace Catalogue

variable {catalogue other : Catalogue} {image : ImageReference}

/-- Two catalogues differ in slashes after the repositories that images were built from. -/
def UpToSlashes (catalogue other : Catalogue) : Prop :=
  ∀ image, ∃ count, other.evidence? image = (catalogue.evidence? image).map (·.withSlashes count)

theorem UpToSlashes.put (same : catalogue.UpToSlashes other) (entry : String × ImageEvidence)
    (count : Nat) :
    Agrees UpToSlashes (catalogue.put entry) (other.put (entry.1, entry.2.withSlashes count)) := by
  unfold Catalogue.put
  cases ImageReference.parse entry.1 with
  | error e => exact .error e
  | ok place =>
    refine .ok fun image => ?_
    simp only [evidence?, Associations.lookup_cons_ite]
    split
    · exact ⟨count, rfl⟩
    · exact same image

theorem ofEntries_agrees (counts : String → Nat) (document : List (String × ImageEvidence)) :
    Agrees UpToSlashes (ofEntries document)
      (ofEntries (document.map fun (key, evidence) => (key, evidence.withSlashes (counts key)))) := by
  rw [ofEntries_eq, ofEntries_eq, List.foldlM_map]
  refine foldlM_agrees (fun _ => ⟨0, rfl⟩) fun before beside entry same => ?_
  exact same.put entry (counts entry.1)

theorem UpToSlashes.vulnerabilities (same : catalogue.UpToSlashes other) (image : ImageReference) :
    other.vulnerabilities image = catalogue.vulnerabilities image := by
  obtain ⟨count, evidence⟩ := same image
  simp only [Catalogue.vulnerabilities, evidence]
  cases catalogue.evidence? image <;> rfl

theorem UpToSlashes.buildDetail (same : catalogue.UpToSlashes other) (image : ImageReference) :
    ∃ count, other.buildDetail image =
      catalogue.buildDetail image >>= fun detail => .value (detail.withSlashes count) := by
  obtain ⟨count, evidence⟩ := same image
  refine ⟨count, ?_⟩
  simp only [Catalogue.buildDetail, evidence]
  cases catalogue.evidence? image with
  | none => rfl
  | some held => cases held with | mk build scan => cases build <;> rfl

end Catalogue

namespace Policy

open Text

theorem isTrusted_withSlashes (organizations : List String) (counts : Nat → Nat) (url : String)
    (count : Nat) :
    isTrusted (organizations.mapIdx fun place url => withSlashes url (counts place))
      (withSlashes url count) = isTrusted organizations url := by
  have kept : (organizations.mapIdx fun place url => withSlashes url (counts place)).map
      (fun url => trimEnd '/' url.toList) = organizations.map fun url => trimEnd '/' url.toList := by
    refine List.ext_getElem (by simp) fun place _ _ => ?_
    simp [trimEnd_withSlashes]
  simp only [isTrusted, kept, trimEnd_withSlashes]

theorem approved_withSlashes {metadata other : MetadataService} {image : ImageReference} {count : Nat}
    (built : other.buildDetail image =
      metadata.buildDetail image >>= fun detail => .value (detail.withSlashes count))
    (evidence : RepositoryEvidence) :
    approved other evidence.service image = approved metadata evidence.service image := by
  unfold approved
  rw [built]
  cases metadata.buildDetail image with
  | failure error => rfl
  | never => rfl
  | value detail =>
    have commit : evidence.service.commit (detail.withSlashes count) = evidence.service.commit detail := by
      simp only [RepositoryEvidence.service, RepositoryEvidence.commit,
        BuildDetail.commitUrl_withSlashes]
    have branch : evidence.service.defaultBranch (detail.withSlashes count) =
        evidence.service.defaultBranch detail := by
      simp only [RepositoryEvidence.service, RepositoryEvidence.defaultBranch,
        BuildDetail.repository_withSlashes]
    simp only [Reply.value_bind, Reply.mapError, commit, branch]

theorem approved_repository_iff {metadata : MetadataService} {repository : RepositoryService}
    {image : ImageReference} {error : RepositoryError} :
    approved metadata repository image = .failure (.repository error) ↔
      ∃ detail, metadata.buildDetail image = .value detail ∧
        (repository.commit detail = .failure error ∨
          ∃ commit, repository.commit detail = .value commit ∧
            repository.defaultBranch detail = .failure error) := by
  have never (commit : Commit) (branch : Branch) :
      reviewed commit branch ≠ .failure (.repository error) := by
    rcases settled_reviewed commit branch with passed | ⟨reason, rejected⟩
    · simp [passed]
    · simp [rejected]
  simp [approved, Reply.bind_failure_iff, Reply.mapError_failure_iff, Reply.mapError_value_iff, never]

variable {evidence : RepositoryEvidence} {detail : BuildDetail} {error : RepositoryError}

theorem commit_failure_iff :
    evidence.commit detail = .failure error ↔
      error = .commitNotFound detail.commitUrl ∧ evidence.commits.lookup detail.commitUrl = none := by
  cases found : evidence.commits.lookup detail.commitUrl <;>
    simp [RepositoryEvidence.commit, found, eq_comm]

theorem defaultBranch_failure_iff :
    evidence.defaultBranch detail = .failure error ↔
      error = .branchNotFound detail.repository ∧
        evidence.defaultBranches.lookup detail.repository = none := by
  cases found : evidence.defaultBranches.lookup detail.repository <;>
    simp [RepositoryEvidence.defaultBranch, found, eq_comm]

theorem approved_commitNotFound_iff {catalogue : Catalogue} {image : ImageReference} {url : String} :
    approved catalogue.service evidence.service image = .failure (.repository (.commitNotFound url)) ↔
      ∃ detail kept, catalogue.buildDetail image = .value detail ∧
        Trimmed '/' detail.repositoryUrl.toList kept ∧
        url = String.ofList kept ++ "/commit/" ++ detail.commit ∧
        evidence.commits.lookup url = none := by
  rw [approved_repository_iff]
  simp only [Catalogue.service, RepositoryEvidence.service, commit_failure_iff,
    defaultBranch_failure_iff, RepositoryError.commitNotFound.injEq, reduceCtorEq, false_and, and_false,
    exists_false, or_false, trimmed_iff]
  constructor
  · rintro ⟨detail, built, rfl, missing⟩
    exact ⟨detail, _, built, rfl, rfl, missing⟩
  · rintro ⟨detail, _, built, rfl, rfl, missing⟩
    exact ⟨detail, built, rfl, missing⟩

theorem approved_branchNotFound_iff {catalogue : Catalogue} {image : ImageReference} {url : String} :
    approved catalogue.service evidence.service image = .failure (.repository (.branchNotFound url)) ↔
      ∃ detail kept commit, catalogue.buildDetail image = .value detail ∧
        Trimmed '/' detail.repositoryUrl.toList kept ∧ url = String.ofList kept ∧
        evidence.commits.lookup (url ++ "/commit/" ++ detail.commit) = some commit ∧
        evidence.defaultBranches.lookup url = none := by
  rw [approved_repository_iff]
  simp only [Catalogue.service, RepositoryEvidence.service, commit_failure_iff, commit_value_iff,
    defaultBranch_failure_iff, RepositoryError.branchNotFound.injEq, reduceCtorEq, false_and, false_or,
    trimmed_iff]
  constructor
  · rintro ⟨detail, built, commit, found, rfl, missing⟩
    exact ⟨detail, _, commit, built, rfl, rfl, found, missing⟩
  · rintro ⟨detail, _, commit, built, rfl, rfl, found, missing⟩
    exact ⟨detail, built, commit, found, rfl, missing⟩

end Policy

namespace Check

theorem ofName_withSlashes {catalogue other : Catalogue} (same : catalogue.UpToSlashes other)
    (name : CheckName) (settings : Settings) (sources : Option RepositoryEvidence) (counts : Nat → Nat)
    (image : ImageReference) :
    (ofName name (settings.withSlashes counts)
      { metadata := other.service, repository := sources.map (·.service) }).map (·.decide image) =
    (ofName name settings
      { metadata := catalogue.service, repository := sources.map (·.service) }).map (·.decide image) := by
  obtain ⟨count, built⟩ := same.buildDetail image
  have build : other.service.buildDetail image = catalogue.service.buildDetail image >>=
      fun detail => .value (detail.withSlashes count) := built
  cases name with
  | approved =>
    cases sources with
    | none => rfl
    | some evidence => exact congrArg some (Policy.approved_withSlashes build evidence)
  | diy => rfl
  | org =>
    simp only [ofName, Option.map_some, Policy.org, Settings.withSlashes, build]
    cases catalogue.service.buildDetail image with
    | value detail =>
      simp only [Reply.value_bind, Reply.mapError, BuildDetail.withSlashes,
        Policy.isTrusted_withSlashes]
    | failure error => rfl
    | never => rfl
  | provenance =>
    simp only [ofName, Option.map_some, Policy.provenance, Policy.provenBuild, Settings.withSlashes, build]
    cases catalogue.service.buildDetail image <;> rfl
  | snakeoil =>
    simp only [ofName, Option.map_some, Policy.snakeoil, Settings.withSlashes, Catalogue.service,
      same.vulnerabilities]

def decided (name : CheckName) (settings : Settings) (document : List (String × ImageEvidence))
    (sources : Option RepositoryEvidence) (image : ImageReference) :
    Except ImageError (Option Verdict) :=
  (Catalogue.ofEntries document).map fun catalogue =>
    (ofName name settings
      { metadata := catalogue.service, repository := sources.map (·.service) }).map (·.decide image)

/-- Slashes appended to the repositories of builds, by the key of the document, and to the organizations
that are trusted, by their place, change neither what a check decides nor the error that it ends with. The
errors of the source name addresses without the slashes at the end of the repository's. -/
theorem decided_withSlashes (name : CheckName) (settings : Settings)
    (document : List (String × ImageEvidence)) (sources : Option RepositoryEvidence)
    (image : ImageReference) (onBuilds : String → Nat) (onOrganizations : Nat → Nat) :
    decided name (settings.withSlashes onOrganizations)
        (document.map fun (key, evidence) => (key, evidence.withSlashes (onBuilds key))) sources image =
      decided name settings document sources image ∧
    ∀ (catalogue : Catalogue) (evidence : RepositoryEvidence) (url : String),
      (Policy.approved catalogue.service evidence.service image =
          .failure (.repository (.commitNotFound url)) ↔
        ∃ detail kept, catalogue.buildDetail image = .value detail ∧
          Text.Trimmed '/' detail.repositoryUrl.toList kept ∧
          url = String.ofList kept ++ "/commit/" ++ detail.commit ∧
          evidence.commits.lookup url = none) ∧
      (Policy.approved catalogue.service evidence.service image =
          .failure (.repository (.branchNotFound url)) ↔
        ∃ detail kept commit, catalogue.buildDetail image = .value detail ∧
          Text.Trimmed '/' detail.repositoryUrl.toList kept ∧ url = String.ofList kept ∧
          evidence.commits.lookup (url ++ "/commit/" ++ detail.commit) = some commit ∧
          evidence.defaultBranches.lookup url = none) := by
  constructor
  · refine ((Catalogue.ofEntries_agrees onBuilds document).map_eq fun catalogue other same => ?_).symm
    exact (ofName_withSlashes same name settings sources onOrganizations image).symm
  · intro catalogue evidence url
    exact ⟨Policy.approved_commitNotFound_iff, Policy.approved_branchNotFound_iff⟩

/-- An address of slashes alone is left empty. -/
example :
    let image : ImageReference := { name := "gcr.io/project/app", digest := "sha256:ab" }
    let detail : BuildDetail := { repositoryUrl := "///", commit := "abc" }
    let catalogue : Catalogue := { entries := [(image, { buildDetail := some detail })] }
    Policy.approved catalogue.service (RepositoryEvidence.service {}) image =
      .failure (.repository (.commitNotFound "/commit/abc")) := by
  decide +kernel

end Check

end Attestor
