import Attestor.Policy.Review
import Attestor.Policy.Scan
import Attestor.Policy.Trust
import Attestor.Proofs.Policy.Evidence

namespace Attestor

namespace Verdict

theorem require_bind (condition : Bool) (reason : Rejection) (next : Unit → Verdict) :
    require condition reason >>= next =
      if condition then next () else .failure (.rejected reason) := by
  cases condition <;> rfl

theorem require_passes_iff {condition : Bool} {reason : Rejection} :
    require condition reason = .value () ↔ condition = true := by
  cases condition <;> simp [require]

theorem require_bind_passes_iff {condition : Bool} {reason : Rejection} {next : Unit → Verdict} :
    require condition reason >>= next = .value () ↔ condition = true ∧ next () = .value () := by
  cases condition <;> simp [require_bind]

def Settled (verdict : Verdict) : Prop :=
  verdict = .value () ∨ ∃ reason, verdict = .failure (.rejected reason)

theorem settled_require (condition : Bool) (reason : Rejection) : (require condition reason).Settled := by
  cases condition with
  | true => exact .inl rfl
  | false => exact .inr ⟨reason, rfl⟩

theorem Settled.bind {verdict : Verdict} {next : Unit → Verdict} (settled : verdict.Settled)
    (later : (next ()).Settled) : Settled (verdict >>= next) := by
  rcases settled with rfl | ⟨reason, rfl⟩
  · exact later
  · exact .inr ⟨reason, rfl⟩

end Verdict

namespace Policy

open Verdict

variable {metadata : MetadataService} {builders projects : List String} {image : ImageReference}
  {detail : BuildDetail}

theorem provenance_of_build (built : metadata.buildDetail image = .value detail) :
    provenance metadata builders projects image =
      if detail.buildCreator ∈ builders then
        if detail.projectId ∈ projects then
          if ∃ artifact ∈ detail.artifacts, artifact.checksum = image.digest then .value ()
          else .failure (.rejected .noMatchingArtifact)
        else .failure (.rejected (.untrustedProject detail.projectId))
      else .failure (.rejected (.untrustedBuilder detail.buildCreator)) := by
  unfold provenance provenBuild
  rw [built]
  simp only [Reply.mapError, Reply.value_bind, require_bind]
  simp only [require, List.contains_iff_mem, List.any_eq_true, beq_iff_eq]

theorem settled_reviewed (commit : Commit) (branch : Branch) : (reviewed commit branch).Settled := by
  unfold reviewed
  refine (settled_require _ _).bind ((settled_require _ _).bind ?_)
  cases commit.mergingPullRequest? with
  | none => exact .inr ⟨.notMergeCommit, rfl⟩
  | some request => exact (settled_require _ _).bind (settled_require _ _)

theorem settled_scanned (threshold : Severity) (scan : List Vulnerability) :
    (scanned threshold scan).Settled := by
  unfold scanned
  cases findings threshold scan with
  | nil => exact .inl rfl
  | cons name names => exact .inr ⟨_, rfl⟩

end Policy

end Attestor
