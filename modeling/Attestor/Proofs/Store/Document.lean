import Attestor.Evidence.Documents
import Attestor.Proofs.Attestation
import Attestor.Proofs.Image.Canonical
import Attestor.Proofs.Results
import Attestor.Proofs.Store.Filing

namespace Attestor

open Results

namespace Store

/-- Every list of attestations is what some document is read as. -/
theorem readDocument_ofList (list : List SignedAttestation) :
    readDocument? (Text.encode (Json.ofList SignedAttestation.toJson list).pretty) = some list := by
  have plain : (Json.ofList SignedAttestation.toJson list).sound (fun _ => false) = true := by
    simp [Json.sound_ofList, SignedAttestation.plain]
  rw [readDocument?, Json.ofBytes_pretty plain, Option.bind_some]
  exact Json.list_ofList (SignedAttestation.ofJson_toJson 1) list

theorem readDocument_document (store : Store) :
    readDocument? (Text.encode store.document) = some store.toList :=
  readDocument_ofList store.toList

def refile (store : Store) (attestation : SignedAttestation) : Except ImageError Store := do
  let image ← ImageReference.parse attestation.image
  return store.add image attestation

theorem refile_ok_iff {store after : Store} {attestation : SignedAttestation} :
    store.refile attestation = .ok after ↔
      ∃ image, ImageReference.parse attestation.image = .ok image ∧
        after = store.add image attestation := by
  rw [refile, bind_ok_iff]
  constructor
  · intro given
    obtain ⟨image, read, made⟩ := given
    cases made
    exact ⟨image, read, rfl⟩
  · intro given
    obtain ⟨image, read, rfl⟩ := given
    exact ⟨image, read, rfl⟩

theorem refileAll_ok_iff {list : List SignedAttestation} {store : Store} :
    (∃ after, list.foldlM refile store = .ok after) ↔
      ∀ attestation ∈ list, ∃ image, ImageReference.parse attestation.image = .ok image := by
  induction list generalizing store with
  | nil => exact ⟨fun _ _ member => (List.not_mem_nil member).elim, fun _ => ⟨store, rfl⟩⟩
  | cons attestation rest ih =>
    simp only [List.foldlM_cons, bind_ok_iff, List.mem_cons, forall_eq_or_imp]
    constructor
    · intro given
      obtain ⟨after, middle, filed, later⟩ := given
      obtain ⟨image, read, _⟩ := refile_ok_iff.mp filed
      exact ⟨⟨image, read⟩, ih.mp ⟨after, later⟩⟩
    · intro given
      obtain ⟨⟨image, read⟩, others⟩ := given
      obtain ⟨after, later⟩ := ih.mpr others
      exact ⟨after, _, refile_ok_iff.mpr ⟨image, read, rfl⟩, later⟩

theorem refileAll_spec {list : List SignedAttestation} {store after : Store}
    (filed : list.foldlM refile store = .ok after) :
    (store.Distinct → after.Distinct) ∧ ∀ image attestation,
      attestation ∈ after.attestations image ↔ attestation ∈ store.attestations image ∨
        attestation ∈ list ∧ ImageReference.parse attestation.image = .ok image := by
  induction list generalizing store with
  | nil =>
    cases filed
    simp
  | cons first rest ih =>
    rw [List.foldlM_cons] at filed
    obtain ⟨middle, made, later⟩ := bind_ok_iff.mp filed
    obtain ⟨place, read, rfl⟩ := refile_ok_iff.mp made
    obtain ⟨distinct, members⟩ := ih later
    refine ⟨fun before => distinct (add_distinct place first before), ?_⟩
    intro image attestation
    rw [members, mem_attestations_add]
    constructor
    · intro given
      rcases given with (old | ⟨rfl, rfl⟩) | ⟨member, named⟩
      · exact .inl old
      · exact .inr ⟨List.mem_cons_self .., read⟩
      · exact .inr ⟨List.mem_cons_of_mem _ member, named⟩
    · intro given
      rcases given with old | ⟨member, named⟩
      · exact .inl (.inl old)
      · rcases List.mem_cons.mp member with rfl | later
        · exact .inl (.inr ⟨rfl, Except.ok.inj (named.symm.trans read)⟩)
        · exact .inr ⟨later, named⟩

theorem toList_refileAll {list : List SignedAttestation} {store after : Store}
    (filed : list.foldlM refile store = .ok after) : after.toList.Perm (store.toList ++ list) := by
  induction list generalizing store with
  | nil =>
    cases filed
    rw [List.append_nil]
  | cons first rest ih =>
    rw [List.foldlM_cons] at filed
    obtain ⟨middle, made, later⟩ := bind_ok_iff.mp filed
    obtain ⟨place, _, rfl⟩ := refile_ok_iff.mp made
    have here := (store.toList_add place first).append_right rest
    rw [List.append_assoc] at here
    exact (ih later).trans here

theorem ofList_eq (list : List SignedAttestation) : ofList list = list.foldlM refile {} := rfl

theorem toList_ofList {list : List SignedAttestation} {store : Store}
    (filed : ofList list = .ok store) : store.toList.Perm list := by
  rw [ofList_eq] at filed
  have all := toList_refileAll filed
  rw [toList_empty, List.nil_append] at all
  exact all

structure Faithful (store : Store) : Prop where
  distinct : store.Distinct
  named : ∀ image, ∀ attestation ∈ store.attestations image,
    attestation.image = image.canonical ∧ image.Settled

theorem empty_faithful : Faithful {} := by
  refine ⟨List.nodup_nil, ?_⟩
  intro image attestation member
  cases member

theorem Faithful.parse_iff {store : Store} (faithful : store.Faithful) {image : ImageReference}
    {attestation : SignedAttestation} (member : attestation ∈ store.attestations image)
    (other : ImageReference) :
    ImageReference.parse attestation.image = .ok other ↔
      other = image ∧ image.hasLowerPath = true := by
  obtain ⟨named, settled⟩ := faithful.named image attestation member
  rw [named, settled.reads]
  cases image.hasLowerPath with
  | false => simp
  | true => simp [eq_comm]

theorem ofFile_document (path : String) (store : Store) :
    ofFile path (some (.file (Text.encode store.document))) =
      (store.toList.foldlM refile {}).mapError .imageReference := by
  simp only [ofFile, Entry.document, Entry.content?, readDocument_document, ofList_eq]
  rfl

/-- A store that has been kept can be read again if and only if its images have lower-case paths. -/
theorem Faithful.reads_iff {store : Store} (faithful : store.Faithful) (path : String) :
    (∃ loaded, ofFile path (some (.file (Text.encode store.document))) = .ok loaded) ↔
      ∀ image, store.attestations image ≠ [] → image.hasLowerPath = true := by
  simp only [ofFile_document, mapError_ok_iff, refileAll_ok_iff, mem_toList faithful.distinct]
  constructor
  · intro readable image some
    obtain ⟨attestation, member⟩ := List.exists_mem_of_ne_nil _ some
    obtain ⟨other, read⟩ := readable attestation ⟨image, member⟩
    exact ((faithful.parse_iff member other).mp read).2
  · intro lower attestation given
    obtain ⟨image, member⟩ := given
    exact ⟨image, (faithful.parse_iff member image).mpr
      ⟨rfl, lower image (List.ne_nil_of_mem member)⟩⟩

/-- What is read again are the attestations that have been kept, under the same images. -/
theorem Faithful.reads_same {store loaded : Store} (faithful : store.Faithful) {path : String}
    (read : ofFile path (some (.file (Text.encode store.document))) = .ok loaded) :
    loaded.Faithful ∧ ∀ image attestation,
      attestation ∈ loaded.attestations image ↔ attestation ∈ store.attestations image := by
  have lower := (faithful.reads_iff path).mp ⟨loaded, read⟩
  rw [ofFile_document, mapError_ok_iff] at read
  obtain ⟨distinct, members⟩ := refileAll_spec read
  have same (image : ImageReference) (attestation : SignedAttestation) :
      attestation ∈ loaded.attestations image ↔ attestation ∈ store.attestations image := by
    rw [members, mem_toList faithful.distinct]
    constructor
    · intro given
      rcases given with impossible | ⟨⟨place, member⟩, named⟩
      · cases impossible
      · obtain ⟨rfl, _⟩ := (faithful.parse_iff member image).mp named
        exact member
    · intro member
      refine .inr ⟨⟨image, member⟩, (faithful.parse_iff member image).mpr ⟨rfl, ?_⟩⟩
      exact lower image (List.ne_nil_of_mem member)
  refine ⟨⟨distinct List.nodup_nil, ?_⟩, same⟩
  intro image attestation member
  exact faithful.named image attestation ((same image attestation).mp member)

end Store

end Attestor
