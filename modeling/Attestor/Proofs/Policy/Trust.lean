import Attestor.Evidence.Recorded
import Attestor.Proofs.Policy.Gates
import Attestor.Settings.Load

namespace Attestor

namespace Settings

def spoken (entries : List String) : List String :=
  entries.filter (· ≠ "")

def withoutEmpty (settings : Settings) : Settings :=
  { settings with
    validRepos := spoken settings.validRepos
    orgUrls := spoken settings.orgUrls
    provenance := {
      trustedBuilderIdentities := spoken settings.provenance.trustedBuilderIdentities
      trustedProjects := spoken settings.provenance.trustedProjects } }

theorem mem_spoken {entry : String} {entries : List String} :
    entry ∈ spoken entries ↔ entry ∈ entries ∧ entry ≠ "" := by
  simp [spoken]

end Settings

open Settings

namespace Policy

theorem fromValidRepository_spoken (repositories : List String) (image : ImageReference) :
    fromValidRepository (spoken repositories) image = fromValidRepository repositories image := by
  unfold fromValidRepository spoken
  rw [List.any_filter]
  congr 1
  funext repository
  by_cases empty : repository = ""
  · simp [empty]
  · simp [empty]

theorem isTrusted_spoken (organizations : List String) (repositoryUrl : String) :
    isTrusted (spoken organizations) repositoryUrl = isTrusted organizations repositoryUrl := by
  have left (url : String) :
      (!(Text.trimEnd '/' url.toList).isEmpty && decide (url ≠ "")) =
        !(Text.trimEnd '/' url.toList).isEmpty := by
    by_cases empty : url = ""
    · subst empty
      rfl
    · simp [empty]
  unfold isTrusted spoken
  simp only [List.filter_map, List.filter_filter, Function.comp_def, left]

variable {metadata : MetadataService} {builders projects : List String} {image : ImageReference}
  {detail : BuildDetail}

/-- A build names no builder, or no project, and an empty entry takes that for trusted. -/
def Slips (builders projects : List String) (detail : BuildDetail) : Prop :=
  detail.buildCreator = "" ∧ "" ∈ builders ∨
    detail.buildCreator ≠ "" ∧ detail.buildCreator ∈ builders ∧
      detail.projectId = "" ∧ "" ∈ projects

theorem provenance_spoken_iff (built : metadata.buildDetail image = .value detail) :
    provenance metadata (spoken builders) (spoken projects) image =
        provenance metadata builders projects image ↔ ¬ Slips builders projects detail := by
  rw [provenance_of_build built, provenance_of_build built]
  unfold Slips
  simp only [mem_spoken]
  by_cases anonymous : detail.buildCreator = ""
  · by_cases trusted : "" ∈ builders
    · -- Only the full list lets the build come to its project and its artifacts.
      simp only [anonymous, trusted, ne_eq, not_true_eq_false, and_false, if_false, if_true, and_self,
        true_or, iff_false]
      split
      · split <;> simp
      · simp
    · simp [anonymous, trusted]
  · by_cases trusted : detail.buildCreator ∈ builders
    · by_cases unplaced : detail.projectId = ""
      · by_cases open_ : "" ∈ projects
        · simp only [anonymous, trusted, unplaced, open_, ne_eq, not_true_eq_false, not_false_eq_true,
            and_false, if_false, if_true, and_self, or_true, iff_false]
          split <;> simp
        · simp [anonymous, unplaced, open_]
      · simp [anonymous, trusted, unplaced]
    · simp [anonymous, trusted]

theorem provenance_spoken_of_none (missing : ∀ detail, metadata.buildDetail image ≠ .value detail) :
    provenance metadata (spoken builders) (spoken projects) image =
      provenance metadata builders projects image := by
  unfold provenance provenBuild
  cases found : metadata.buildDetail image with
  | value detail => exact absurd found (missing detail)
  | failure error => rfl
  | never => rfl

theorem provenance_passes_iff (built : metadata.buildDetail image = .value detail) :
    provenance metadata builders projects image = .value () ↔
      detail.buildCreator ∈ builders ∧ detail.projectId ∈ projects ∧
        ∃ artifact ∈ detail.artifacts, artifact.checksum = image.digest := by
  unfold provenance provenBuild
  rw [built]
  simp only [Reply.mapError, Reply.value_bind, Verdict.require_bind_passes_iff,
    Verdict.require_passes_iff, List.contains_iff_mem, List.any_eq_true, beq_iff_eq]

end Policy

/-- Empty entries change the decision of no check but `provenance`, and of that one exactly for builds
that name no builder or no project where such an entry takes them for trusted. Such a build is proven
like any other, if its artifacts have the image; without the empty entries it never is. -/
theorem Check.ofName_withoutEmpty_iff (settings : Settings) (services : Services)
    (image : ImageReference) :
    let builders := settings.provenance.trustedBuilderIdentities
    let projects := settings.provenance.trustedProjects
    (∀ name, (ofName name settings.withoutEmpty services).map (·.decide image) =
        (ofName name settings services).map (·.decide image) ↔
      (name = .provenance → ∀ detail, services.metadata.buildDetail image = .value detail →
        ¬ Policy.Slips builders projects detail)) ∧
    ∀ detail, services.metadata.buildDetail image = .value detail →
      detail.buildCreator = "" ∨ detail.projectId = "" →
      ((ofName .provenance settings services).map (·.decide image) = some (.value ()) ↔
        detail.buildCreator ∈ builders ∧ detail.projectId ∈ projects ∧
          ∃ artifact ∈ detail.artifacts, artifact.checksum = image.digest) ∧
      (ofName .provenance settings.withoutEmpty services).map (·.decide image) ≠
        some (.value ()) := by
  intro builders projects
  constructor
  · intro name
    cases name with
    | approved => simp [ofName]
    | diy => simp [ofName, withoutEmpty, Policy.diy, Policy.fromValidRepository_spoken]
    | org => simp [ofName, withoutEmpty, Policy.org, Policy.isTrusted_spoken]
    | snakeoil => simp [ofName, withoutEmpty]
    | provenance =>
      simp only [ofName, withoutEmpty, Option.map_some, Option.some.injEq, true_imp_iff]
      cases found : services.metadata.buildDetail image with
      | value detail =>
        rw [Policy.provenance_spoken_iff found]
        constructor
        · intro safe other same
          cases same
          exact safe
        · intro safe
          exact safe detail rfl
      | failure | never =>
        refine iff_of_true (Policy.provenance_spoken_of_none fun detail => ?_) fun detail => ?_
        · simp [found]
        · simp
  · intro detail built bare
    simp only [ofName, withoutEmpty, Option.map_some, Option.some.injEq, ne_eq,
      Policy.provenance_passes_iff built, mem_spoken]
    refine ⟨Iff.rfl, ?_⟩
    rintro ⟨⟨_, named⟩, ⟨_, placed⟩, _⟩
    exact bare.elim named placed

theorem Check.ofName_withoutEmpty_iff_override :
    let image : ImageReference := { name := "gcr.io/project/app", digest := "sha256:ab" }
    let detail : BuildDetail := {
      repositoryUrl := "https://github.com/grafeas/voucher", commit := "abc"
      artifacts := [{ id := "app", checksum := "sha256:ab" }] }
    let services : Services := {
      metadata := Catalogue.service { entries := [(image, { buildDetail := some detail })] } }
    let settings : Settings :=
      { provenance := { trustedBuilderIdentities := [""], trustedProjects := [""] } }
    (ofSources [("provenance", .table [("trusted_projects", .list [.text ""])])]
      [("VOUCHER__PROVENANCE__TRUSTED_BUILDER_IDENTITIES", "")]).toOption = some settings ∧
    (ofName .provenance settings services).map (·.decide image) = some (.value ()) ∧
    (ofName .provenance settings.withoutEmpty services).map (·.decide image) ≠
      (ofName .provenance settings services).map (·.decide image) := by
  intro image detail services settings
  obtain ⟨same, bare⟩ := ofName_withoutEmpty_iff settings services image
  have built : services.metadata.buildDetail image = .value detail := by
    simp [services, Catalogue.service, Catalogue.buildDetail, Catalogue.evidence?]
  obtain ⟨passes, never⟩ := bare detail built (.inl rfl)
  refine ⟨by decide +kernel, passes.mpr (by simp [settings, detail, image]), ?_⟩
  intro alike
  exact (same .provenance).mp alike rfl detail built (.inl ⟨rfl, List.mem_singleton_self ""⟩)

end Attestor
