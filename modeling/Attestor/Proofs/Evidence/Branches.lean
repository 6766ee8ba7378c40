import Attestor.Evidence.Documents
import Attestor.Proofs.Policy.Slashes

namespace Attestor

open Text

theorem BuildDetail.repository_of_slashes {detail : BuildDetail} {url : String} {count : Nat}
    (named : detail.repositoryUrl = Text.withSlashes url count) :
    detail.repository = trimSlashes url := by
  rw [repository, trimSlashes, named, trimEnd_withSlashes, ← trimSlashes]

namespace RepositoryEvidence

variable {evidence : RepositoryEvidence} {detail : BuildDetail}

def branchUrls (evidence : RepositoryEvidence) : List String :=
  evidence.defaultBranches.map (·.1)

def withoutBranch (evidence : RepositoryEvidence) (url : String) : RepositoryEvidence :=
  { evidence with defaultBranches := evidence.defaultBranches.filter (url != ·.1) }

theorem exists_branch_iff {url : String} :
    (∃ branch, evidence.defaultBranches.lookup url = some branch) ↔ url ∈ evidence.branchUrls :=
  Associations.exists_lookup_iff

theorem defaultBranch_served_iff :
    (∃ url branch, evidence.defaultBranches.lookup url = some branch ∧
        evidence.defaultBranch detail = .value branch) ↔
      detail.repository ∈ evidence.branchUrls := by
  simp only [Policy.defaultBranch_value_iff, ← exists_branch_iff]
  constructor
  · rintro ⟨_, branch, _, found⟩
    exact ⟨branch, found⟩
  · rintro ⟨branch, found⟩
    exact ⟨_, branch, found, found⟩

theorem defaultBranch_missing_iff :
    evidence.defaultBranch detail = .failure (.branchNotFound detail.repository) ↔
      detail.repository ∉ evidence.branchUrls := by
  rw [Policy.defaultBranch_failure_iff, ← exists_branch_iff, ← Option.isSome_iff_exists,
    Option.not_isSome_iff_eq_none]
  exact and_iff_right rfl

theorem defaultBranch_withoutBranch {url : String} (other : detail.repository ≠ url) :
    (evidence.withoutBranch url).defaultBranch detail = evidence.defaultBranch detail := by
  have kept : (evidence.withoutBranch url).defaultBranches.lookup detail.repository =
      evidence.defaultBranches.lookup detail.repository :=
    Associations.lookup_filter_key (bne_iff_ne.mpr other.symm) _
  rw [defaultBranch, kept, ← defaultBranch]

theorem not_mem_withoutBranch (evidence : RepositoryEvidence) (url : String) :
    url ∉ (evidence.withoutBranch url).branchUrls := by
  simp [branchUrls, withoutBranch]

/-- A branch that is recorded can be left out without any build noticing, exactly if a slash stands at the
end of its address. -/
theorem withoutBranch_unnoticed_iff {url : String} (recorded : url ∈ evidence.branchUrls) :
    (∀ detail, (evidence.withoutBranch url).defaultBranch detail = evidence.defaultBranch detail) ↔
      url.toList.getLast? = some '/' := by
  constructor
  · intro unnoticed
    refine Decidable.by_contra fun bare => ?_
    let detail : BuildDetail := { repositoryUrl := url, commit := "" }
    have itself : detail.repository = url := trimSlashes_bare bare
    have gone : detail.repository ∉ (evidence.withoutBranch url).branchUrls := by
      rw [itself]
      exact not_mem_withoutBranch evidence url
    have missing := defaultBranch_missing_iff.mpr gone
    rw [unnoticed detail, defaultBranch_missing_iff, itself] at missing
    exact missing recorded
  · intro slash detail
    refine defaultBranch_withoutBranch fun same => ?_
    have bare := (trimSlashes_trimmed detail.repositoryUrl).bare
    rw [← BuildDetail.repository, same] at bare
    exact bare slash

/-- A build that names an address of a document, with or without more slashes, is served a recorded branch
exactly if the address without the slashes at its end is in the document too; else the branch is not found.
If no slash stands at its end, the build is served the branch of this address, and otherwise no build is. -/
theorem defaultBranch_recorded_iff (evidence : RepositoryEvidence) {url : String} {branch : Branch}
    (recorded : evidence.defaultBranches.lookup url = some branch) :
    (∀ detail count, detail.repositoryUrl = withSlashes url count →
      ∃ kept, Trimmed '/' url.toList kept.toList ∧
        ((∃ other served, evidence.defaultBranches.lookup other = some served ∧
          evidence.defaultBranch detail = .value served) ↔ kept ∈ evidence.branchUrls) ∧
        (evidence.defaultBranch detail = .failure (.branchNotFound kept) ↔
          kept ∉ evidence.branchUrls) ∧
        (url.toList.getLast? ≠ some '/' → evidence.defaultBranch detail = .value branch)) ∧
    ((∀ detail, (evidence.withoutBranch url).defaultBranch detail = evidence.defaultBranch detail) ↔
      url.toList.getLast? = some '/') := by
  constructor
  · intro detail count named
    have address := BuildDetail.repository_of_slashes named
    refine ⟨trimSlashes url, trimSlashes_trimmed url, ?_, ?_, ?_⟩
    · rw [defaultBranch_served_iff, address]
    · rw [← address]
      exact defaultBranch_missing_iff
    · intro bare
      rw [Policy.defaultBranch_value_iff, address, trimSlashes_bare bare]
      exact recorded
  · exact withoutBranch_unnoticed_iff (exists_branch_iff.mp ⟨branch, recorded⟩)

/-- The address of a build is the only one in the document, and still its branch is not found. -/
theorem defaultBranch_recorded_iff_slash :
    let url := "https://github.com/grafeas/voucher/"
    let document := "\x7b\"default_branches\": \x7b\"" ++ url ++ "\": \x7b\"name\": \"production\"\x7d\x7d\x7d"
    let detail : BuildDetail := { repositoryUrl := url, commit := "abc" }
    let evidence : RepositoryEvidence := { defaultBranches := [(url, { name := "production" })] }
    ofFile "repository.json" (some (.file (Text.encode document))) = .ok evidence ∧
      evidence.defaultBranch detail =
        .failure (.branchNotFound "https://github.com/grafeas/voucher") ∧
      ∀ other, (evidence.withoutBranch url).defaultBranch other = evidence.defaultBranch other := by
  intro url document detail evidence
  have read : readDocument? (Text.encode document) = some evidence := by
    decide +kernel
  have recorded : evidence.defaultBranches.lookup url = some { name := "production" } := by
    simp [evidence]
  obtain ⟨serves, unnoticed⟩ := defaultBranch_recorded_iff evidence recorded
  obtain ⟨kept, trimmed, _, missing, _⟩ := serves detail 0 (by decide +kernel)
  obtain rfl : kept = "https://github.com/grafeas/voucher" := by
    rw [← String.toList_inj, trimmed_iff.mp trimmed]
    decide +kernel
  exact ⟨Entry.document_ok_iff.mpr ⟨_, rfl, read⟩, missing.mpr (by decide +kernel),
    unnoticed.mpr (by decide +kernel)⟩

end RepositoryEvidence

end Attestor
