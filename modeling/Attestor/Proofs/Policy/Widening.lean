import Attestor.Proofs.Policy.Findings
import Attestor.Proofs.Policy.Organizations
import Attestor.Proofs.Policy.Trust

namespace Attestor

theorem Severity.le_antisymm {a b : Severity} (below : a ≤ b) (above : b ≤ a) : a = b := by
  revert below above
  cases a <;> cases b <;> decide

namespace Policy

variable {metadata : MetadataService} {image : ImageReference}

theorem fromValidRepository_mono {repositories others : List String} (more : repositories ⊆ others)
    (valid : fromValidRepository repositories image = true) : fromValidRepository others image = true := by
  rw [fromValidRepository, List.any_eq_true] at valid ⊢
  obtain ⟨repository, listed, begins⟩ := valid
  exact ⟨repository, more listed, begins⟩

theorem isTrusted_mono {organizations others : List String} {repository : String}
    (more : organizations ⊆ others) (trusted : isTrusted organizations repository = true) :
    isTrusted others repository = true := by
  rw [isTrusted_iff] at trusted ⊢
  obtain ⟨organization, listed, covers⟩ := trusted
  exact ⟨organization, more listed, covers⟩

theorem org_passes_iff {organizations : List String} :
    org metadata organizations image = .value () ↔
      ∃ detail, metadata.buildDetail image = .value detail ∧
        isTrusted organizations detail.repositoryUrl = true := by
  simp only [org, Reply.bind_value_iff, Reply.mapError_value_iff, Verdict.require_passes_iff]

theorem built_of_provenance {builders projects : List String}
    (passes : provenance metadata builders projects image = .value ()) :
    ∃ detail, metadata.buildDetail image = .value detail := by
  simp only [provenance, provenBuild, Reply.bind_value_iff, Reply.mapError_value_iff] at passes
  obtain ⟨detail, built, _⟩ := passes
  exact ⟨detail, built⟩

end Policy

/-- Settings that trust all that others trust, and maybe more, and that let graver findings pass. -/
structure Settings.Widens (narrow wide : Settings) : Prop where
  repositories : narrow.validRepos ⊆ wide.validRepos
  organizations : narrow.orgUrls ⊆ wide.orgUrls
  builders : narrow.provenance.trustedBuilderIdentities ⊆ wide.provenance.trustedBuilderIdentities
  projects : narrow.provenance.trustedProjects ⊆ wide.provenance.trustedProjects
  threshold : narrow.failOn ≤ wide.failOn

namespace Check

variable {narrow wide : Settings}

theorem passes_widened (wider : narrow.Widens wide) (services : Services) (image : ImageReference)
    (name : CheckName)
    (passes : (ofName name narrow services).map (·.decide image) = some (.value ())) :
    (ofName name wide services).map (·.decide image) = some (.value ()) := by
  cases name with
  | approved => exact passes
  | diy =>
    simp only [ofName, Option.map_some, Option.some.injEq, Policy.diy,
      Verdict.require_passes_iff] at passes ⊢
    exact Policy.fromValidRepository_mono wider.repositories passes
  | org =>
    simp only [ofName, Option.map_some, Option.some.injEq, Policy.org_passes_iff] at passes ⊢
    obtain ⟨detail, built, trusted⟩ := passes
    exact ⟨detail, built, Policy.isTrusted_mono wider.organizations trusted⟩
  | provenance =>
    simp only [ofName, Option.map_some, Option.some.injEq] at passes ⊢
    obtain ⟨detail, built⟩ := Policy.built_of_provenance passes
    rw [Policy.provenance_passes_iff built] at passes ⊢
    obtain ⟨builder, project, made⟩ := passes
    exact ⟨wider.builders builder, wider.projects project, made⟩
  | snakeoil =>
    simp only [ofName, Option.map_some, Option.some.injEq, Policy.snakeoil_passes_iff] at passes ⊢
    obtain ⟨scan, found, below⟩ := passes
    refine ⟨scan, found, fun finding member high => ?_⟩
    exact below finding member (Severity.le_trans wider.threshold high)

theorem decide_of_same_entries (wider : narrow.Widens wide) (narrower : wide.Widens narrow)
    (services : Services) (image : ImageReference) (name : CheckName) :
    (ofName name wide services).map (·.decide image) =
      (ofName name narrow services).map (·.decide image) := by
  have repositories : Policy.fromValidRepository wide.validRepos image =
      Policy.fromValidRepository narrow.validRepos image :=
    Bool.eq_iff_iff.mpr ⟨Policy.fromValidRepository_mono narrower.repositories,
      Policy.fromValidRepository_mono wider.repositories⟩
  have organizations (repository : String) : Policy.isTrusted wide.orgUrls repository =
      Policy.isTrusted narrow.orgUrls repository :=
    Bool.eq_iff_iff.mpr ⟨Policy.isTrusted_mono narrower.organizations,
      Policy.isTrusted_mono wider.organizations⟩
  have listed {entries others : List String} (more : entries ⊆ others) (fewer : others ⊆ entries)
      (entry : String) : others.contains entry = entries.contains entry := by
    rw [Bool.eq_iff_iff, List.contains_iff_mem, List.contains_iff_mem]
    exact ⟨(fewer ·), (more ·)⟩
  cases name with
  | approved => rfl
  | diy => simp only [ofName, Option.map_some, Policy.diy, repositories]
  | org => simp only [ofName, Option.map_some, Policy.org, organizations]
  | provenance =>
    simp only [ofName, Option.map_some, Policy.provenance, listed wider.builders narrower.builders,
      listed wider.projects narrower.projects]
  | snakeoil =>
    have same : wide.failOn = narrow.failOn := Severity.le_antisymm narrower.threshold wider.threshold
    simp only [ofName, same]

/-- Wherever a check lets an image pass, it does so under all settings that trust more. Settings that trust
the same entries, in any order and however often they are repeated, lead to the same outcome. -/
theorem ofName_widens (wider : narrow.Widens wide) (services : Services) (image : ImageReference)
    (name : CheckName) :
    ((ofName name narrow services).map (·.decide image) = some (.value ()) →
      (ofName name wide services).map (·.decide image) = some (.value ())) ∧
    (wide.Widens narrow →
      (ofName name wide services).map (·.decide image) =
        (ofName name narrow services).map (·.decide image)) :=
  ⟨passes_widened wider services image name,
    fun narrower => decide_of_same_entries wider narrower services image name⟩

theorem ofName_widens_shuffled :
    let image : ImageReference := { name := "gcr.io/project/app", digest := "sha256:ab" }
    let evidence : ImageEvidence := {
      buildDetail := some {
        repositoryUrl := "https://github.com/grafeas/voucher", commit := "abc", projectId := "voucher"
        buildCreator := "builder", artifacts := [{ id := "app", checksum := "sha256:ab" }] }
      vulnerabilities := some [{ name := "CVE-2024-1", severity := .low }] }
    let services : Services := { metadata := Catalogue.service { entries := [(image, evidence)] } }
    let narrow : Settings := {
      validRepos := ["gcr.io/project/", "quay.io/"], orgUrls := ["https://github.com/grafeas", "//"]
      provenance := { trustedBuilderIdentities := ["builder"], trustedProjects := ["voucher", "other"] }
      failOn := .medium }
    let shuffled : Settings := { narrow with
      validRepos := ["quay.io/", "gcr.io/project/", "quay.io/"]
      orgUrls := ["//", "//", "https://github.com/grafeas"]
      provenance := {
        trustedBuilderIdentities := ["builder", "builder"], trustedProjects := ["other", "voucher"] } }
    let wide : Settings := { shuffled with orgUrls := "https://gitlab.com" :: shuffled.orgUrls, failOn := .high }
    ∀ name ∈ [CheckName.diy, .org, .provenance, .snakeoil],
      (ofName name narrow services).map (·.decide image) = some (.value ()) ∧
      (ofName name wide services).map (·.decide image) = some (.value ()) ∧
      (ofName name shuffled services).map (·.decide image) =
        (ofName name narrow services).map (·.decide image) := by
  intro image evidence services narrow shuffled wide name decided
  have wider : narrow.Widens wide := by
    constructor
    all_goals simp [narrow, wide, shuffled]
    decide
  have fuller : narrow.Widens shuffled := by
    constructor
    all_goals simp [narrow, shuffled]
    decide
  have barer : shuffled.Widens narrow := by
    constructor
    all_goals simp [narrow, shuffled]
    decide
  have passes : (ofName name narrow services).map (·.decide image) = some (.value ()) := by
    revert name
    decide
  exact ⟨passes, (ofName_widens wider services image name).1 passes,
    (ofName_widens fuller services image name).2 barer⟩

end Check

end Attestor
