import Attestor.Check
import Attestor.Evidence.Recorded

namespace Attestor

variable {image : ImageReference}

namespace Reply

variable {ε δ α β : Type}

theorem value_bind (a : α) (next : α → Reply ε β) : Reply.value a >>= next = next a := rfl

theorem failure_bind (e : ε) (next : α → Reply ε β) : Reply.failure e >>= next = .failure e := rfl

theorem never_bind (next : α → Reply ε β) : Reply.never >>= next = .never := rfl

theorem bind_value_iff {reply : Reply ε α} {next : α → Reply ε β} {b : β} :
    reply >>= next = .value b ↔ ∃ a, reply = .value a ∧ next a = .value b := by
  constructor
  · intro passed
    cases reply with
    | value a => exact ⟨a, rfl, passed⟩
    | failure e => cases passed
    | never => cases passed
  · rintro ⟨a, rfl, passed⟩
    exact passed

theorem bind_failure_iff {reply : Reply ε α} {next : α → Reply ε β} {e : ε} :
    reply >>= next = .failure e ↔
      reply = .failure e ∨ ∃ a, reply = .value a ∧ next a = .failure e := by
  cases reply with
  | value a => simp [value_bind]
  | failure other => simp [failure_bind]
  | never => simp [never_bind]

theorem mapError_failure_iff {reply : Reply ε α} {f : ε → δ} {d : δ} :
    reply.mapError f = .failure d ↔ ∃ e, reply = .failure e ∧ f e = d := by
  cases reply <;> simp [mapError]

theorem mapError_value_iff {reply : Reply ε α} {f : ε → δ} {a : α} :
    reply.mapError f = .value a ↔ reply = .value a := by
  cases reply <;> simp [mapError]

end Reply

structure Services.SameEvidence (image : ImageReference) (first second : Services) : Prop where
  vulnerabilities : first.metadata.vulnerabilities image = second.metadata.vulnerabilities image
  buildDetail : first.metadata.buildDetail image = second.metadata.buildDetail image
  repository : first.repository.isSome = second.repository.isSome
  commit : ∀ detail, first.metadata.buildDetail image = .value detail →
    first.repository.map (·.commit detail) = second.repository.map (·.commit detail)
  defaultBranch : ∀ detail, first.metadata.buildDetail image = .value detail →
    first.repository.map (·.defaultBranch detail) = second.repository.map (·.defaultBranch detail)

theorem Services.SameEvidence.ofCatalogues {first second : Catalogue} (repository : Option RepositoryService)
    (same : first.evidence? image = second.evidence? image) :
    Services.SameEvidence image { metadata := first.service, repository }
      { metadata := second.service, repository } where
  vulnerabilities := by simp only [Catalogue.service, Catalogue.vulnerabilities, same]
  buildDetail := by simp only [Catalogue.service, Catalogue.buildDetail, same]
  repository := rfl
  commit := fun _ _ => rfl
  defaultBranch := fun _ _ => rfl

theorem Policy.approved_congr {metadata other : MetadataService} {repository another : RepositoryService}
    (build : metadata.buildDetail image = other.buildDetail image)
    (commit : ∀ detail, metadata.buildDetail image = .value detail →
      repository.commit detail = another.commit detail)
    (branch : ∀ detail, metadata.buildDetail image = .value detail →
      repository.defaultBranch detail = another.defaultBranch detail) :
    approved metadata repository image = approved other another image := by
  unfold approved
  rw [← build]
  cases found : metadata.buildDetail image with
  | failure error => rfl
  | never => rfl
  | value detail =>
    have sameCommit := commit detail found
    have sameBranch := branch detail found
    simp only [Reply.mapError, Reply.value_bind, sameCommit, sameBranch]

/-- A check of the library decides alike on the same evidence for an image. -/
theorem Check.ofName_congr {first second : Services} (same : first.SameEvidence image second)
    (name : CheckName) (settings : Settings) :
    (ofName name settings first).map (·.decide image) =
      (ofName name settings second).map (·.decide image) := by
  cases name with
  | diy => rfl
  | org => simp only [ofName, Option.map_some, Policy.org, same.buildDetail]
  | provenance =>
    simp only [ofName, Option.map_some, Policy.provenance, Policy.provenBuild, same.buildDetail]
  | snakeoil => simp only [ofName, Option.map_some, Policy.snakeoil, same.vulnerabilities]
  | approved =>
    obtain ⟨_, build, present, commit, branch⟩ := same
    simp only [ofName, Option.map_map]
    cases one : first.repository with
    | none =>
      rw [one] at present
      cases two : second.repository with
      | none => rfl
      | some another =>
        rw [two] at present
        cases present
    | some repository =>
      rw [one] at present commit branch
      cases two : second.repository with
      | none =>
        rw [two] at present
        cases present
      | some another =>
        rw [two] at commit branch
        refine congrArg some (Policy.approved_congr build ?_ ?_)
        · intro detail found
          exact Option.some.inj (commit detail found)
        · intro detail found
          exact Option.some.inj (branch detail found)

theorem Check.ofText_congr {first second : Services} (same : first.SameEvidence image second)
    {text : String} {settings : Settings} {check : Check}
    (read : ofText text settings first = .ok check) :
    ∃ other, ofText text settings second = .ok other ∧ check.decide image = other.decide image := by
  unfold ofText at read ⊢
  cases named : CheckName.ofAnyCase? text with
  | none =>
    rw [named] at read
    cases read
  | some name =>
    have decides := ofName_congr same name settings
    cases found : ofName name settings first with
    | none =>
      simp only [named, found] at read
      cases read
    | some ready =>
      simp only [named, found] at read
      cases read
      rw [found] at decides
      obtain ⟨other, found', equal⟩ := Option.map_eq_some_iff.mp decides.symm
      exact ⟨other, by simp only [found'], equal.symm⟩

end Attestor
