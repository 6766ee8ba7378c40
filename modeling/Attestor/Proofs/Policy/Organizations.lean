import Attestor.Evidence.Recorded
import Attestor.Proofs.Policy.Gates
import Attestor.Proofs.Text.Segments
import Attestor.Proofs.Text.Trimming

namespace Attestor.Policy

open Text

/-- The address of a repository begins with the segments of an organization's address, which is not
empty. Slashes at the end of either do not count. -/
def Covers (organization repository : String) : Prop :=
  ∃ kept below, Trimmed '/' organization.toList kept ∧ Trimmed '/' repository.toList below ∧
    kept ≠ [] ∧ segments '/' kept <+: segments '/' below

/-- The address of an organization has a segment that the address of a repository does not have in the
same place. -/
def Misses (organization repository : String) : Prop :=
  ∃ kept below place, Trimmed '/' organization.toList kept ∧ Trimmed '/' repository.toList below ∧
    place < (segments '/' kept).length ∧ (segments '/' below)[place]? ≠ (segments '/' kept)[place]?

theorem isBelow_iff {organization repository : List Char} :
    isBelow organization repository = true ↔
      segments '/' organization <+: segments '/' repository := by
  rw [segments_prefix_iff]
  simp only [isBelow, Bool.or_eq_true, beq_iff_eq, List.isPrefixOf_iff_prefix]

theorem isTrusted_iff {organizations : List String} {repository : String} :
    isTrusted organizations repository = true ↔
      ∃ organization ∈ organizations, Covers organization repository := by
  simp only [isTrusted, Covers, trimmed_iff, List.any_eq_true, List.mem_filter, List.mem_map,
    Bool.not_eq_true', List.isEmpty_eq_false_iff, isBelow_iff]
  constructor
  · rintro ⟨_, ⟨⟨organization, member, rfl⟩, spoken⟩, below⟩
    exact ⟨organization, member, _, _, rfl, rfl, spoken, below⟩
  · rintro ⟨organization, member, _, _, rfl, rfl, spoken, below⟩
    exact ⟨_, ⟨⟨organization, member, rfl⟩, spoken⟩, below⟩

theorem Misses.not_covers {organization repository : String} (misses : Misses organization repository) :
    ¬ Covers organization repository := by
  simp only [Misses, trimmed_iff] at misses
  obtain ⟨_, _, place, rfl, rfl, within, different⟩ := misses
  simp only [Covers, trimmed_iff]
  rintro ⟨_, _, rfl, rfl, _, begins⟩
  refine different ?_
  rw [List.prefix_iff_getElem?.mp begins place within, List.getElem?_eq_getElem within]

/-- An address that goes on inside the last segment of an organization's is not below it. -/
theorem not_covers_longer {organization : String} {kept rest : List Char} {c : Char}
    (trimmed : Trimmed '/' organization.toList kept) (inside : c ≠ '/') :
    ¬ Covers organization (String.ofList (kept ++ c :: rest)) := by
  rintro ⟨other, below, same, ⟨⟨count, whole⟩, _⟩, _, begins⟩
  rw [trimmed_iff] at trimmed same
  obtain rfl : other = kept := same.trans trimmed.symm
  rw [String.toList_ofList] at whole
  rcases segments_prefix_iff.mp begins with rfl | ⟨more, rfl⟩
  · have slashes : c :: rest = List.replicate count '/' := List.append_cancel_left whole
    exact inside (List.eq_of_mem_replicate (slashes ▸ List.mem_cons_self ..))
  · rw [List.append_assoc, List.append_assoc] at whole
    exact inside (List.cons_eq_cons.mp (List.append_cancel_left whole)).1

/-- The check trusts a repository if and only if its address begins with the segments of one of the
organizations' addresses, whatever slashes stand at the end of either. An address that differs from an
organization's inside one of its segments, or makes its last segment longer, is not trusted for it. -/
theorem org_trusts_covered (organizations : List String) :
    (∀ repository, isTrusted organizations repository = true ↔
      ∃ organization ∈ organizations, Covers organization repository) ∧
    (∀ metadata image detail, metadata.buildDetail image = .value detail →
      (org metadata organizations image = .value () ↔
        ∃ organization ∈ organizations, Covers organization detail.repositoryUrl) ∧
      (org metadata organizations image = .failure (.rejected .untrustedOrganization) ↔
        ∀ organization ∈ organizations, ¬ Covers organization detail.repositoryUrl)) ∧
    (∀ repository, (∀ organization ∈ organizations, Misses organization repository) →
      isTrusted organizations repository = false) ∧
    ∀ organization kept c rest, Trimmed '/' organization.toList kept → c ≠ '/' →
      isTrusted [organization] (String.ofList (kept ++ c :: rest)) = false := by
  have distrusted (organizations : List String) (repository : String) :
      isTrusted organizations repository = false ↔
        ∀ organization ∈ organizations, ¬ Covers organization repository := by
    rw [← Bool.not_eq_true, isTrusted_iff]
    simp
  refine ⟨fun repository => isTrusted_iff, ?_, ?_, ?_⟩
  · intro metadata image detail built
    have decided : org metadata organizations image =
        Verdict.require (isTrusted organizations detail.repositoryUrl) .untrustedOrganization := by
      simp only [org, built, Reply.mapError, Reply.value_bind]
    rw [decided, ← isTrusted_iff, ← distrusted]
    cases isTrusted organizations detail.repositoryUrl <;> simp [Verdict.require]
  · intro repository misses
    rw [distrusted]
    exact fun organization member => (misses organization member).not_covers
  · intro organization kept c rest trimmed inside
    rw [distrusted]
    intro other member
    rw [List.mem_singleton.mp member]
    exact not_covers_longer trimmed inside

theorem org_trusts_covered_fork :
    let image : ImageReference := { name := "gcr.io/project/app", digest := "sha256:ab" }
    let detail : BuildDetail :=
      { repositoryUrl := "https://github.com/grafeas/voucher/", commit := "abc" }
    let metadata := Catalogue.service { entries := [(image, { buildDetail := some detail })] }
    let organizations := ["//", "https://github.com/grafeas//"]
    metadata.buildDetail image = .value detail ∧
    org metadata organizations image = .value () ∧
    isTrusted organizations "https://github.com/grafeas-fork/voucher" = false ∧
    isTrusted ["https://github.com/grafeas//"] "https://github.com/grafeas-fork" = false := by
  intro image detail metadata organizations
  have trim {text kept : List Char} (same : kept = trimEnd '/' text) : Trimmed '/' text kept :=
    trimmed_iff.mpr same
  obtain ⟨_, checked, strangers, _⟩ := org_trusts_covered organizations
  obtain ⟨_, _, _, longer⟩ := org_trusts_covered ["https://github.com/grafeas//"]
  have built : metadata.buildDetail image = .value detail := by
    simp [metadata, Catalogue.service, Catalogue.buildDetail, Catalogue.evidence?]
  refine ⟨built, (checked metadata image detail built).1.mpr ?_, strangers _ ?_, ?_⟩
  · exact ⟨"https://github.com/grafeas//", by simp [organizations], _, _, trim rfl, trim rfl,
      by decide, by decide⟩
  · intro organization member
    rcases List.mem_cons.mp member with rfl | member
    · exact ⟨_, _, 0, trim rfl, trim rfl, by decide, by decide⟩
    · rw [List.mem_singleton.mp member]
      exact ⟨_, _, 3, trim rfl, trim rfl, by decide, by decide⟩
  · exact longer _ "https://github.com/grafeas".toList '-' "fork".toList (trim rfl) (by decide)

end Attestor.Policy
