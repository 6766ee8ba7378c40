import Attestor.Proofs.Associations
import Attestor.Store

namespace Attestor.Store

open Associations

theorem lookup_append (image other : ImageReference) (attestation : SignedAttestation)
    (entries : List (ImageReference × List SignedAttestation)) :
    (append image attestation entries).lookup other =
      if other = image then some ((entries.lookup image).getD [] ++ [attestation])
      else entries.lookup other := by
  induction entries with
  | nil =>
    simp only [append, lookup_cons_ite, List.lookup_nil, Option.getD_none, List.nil_append]
  | cons entry rest ih =>
    obtain ⟨head, list⟩ := entry
    simp only [append]
    split
    · rename_i equal
      subst equal
      simp only [lookup_cons_ite, ↓reduceIte, Option.getD_some]
      split <;> rfl
    · rename_i different
      simp only [lookup_cons_ite, ih, if_neg (Ne.symm different)]
      by_cases same : other = head
      · subst same
        rw [if_pos rfl, if_pos rfl, if_neg different]
      · rw [if_neg same, if_neg same]

@[simp] theorem attestations_add (store : Store) (image other : ImageReference)
    (attestation : SignedAttestation) :
    (store.add image attestation).attestations other =
      if other = image then store.attestations image ++ [attestation]
      else store.attestations other := by
  simp only [attestations, add, lookup_append]
  split <;> rfl

def addAll (store : Store) (image : ImageReference) (list : List SignedAttestation) : Store :=
  list.foldl (fun store attestation => store.add image attestation) store

theorem addAll_concat (store : Store) (image : ImageReference) (list : List SignedAttestation)
    (attestation : SignedAttestation) :
    store.addAll image (list ++ [attestation]) = (store.addAll image list).add image attestation := by
  simp [addAll]

@[simp] theorem attestations_addAll (store : Store) (image other : ImageReference)
    (list : List SignedAttestation) :
    (store.addAll image list).attestations other =
      if other = image then store.attestations image ++ list else store.attestations other := by
  induction list generalizing store with
  | nil =>
    simp only [addAll, List.foldl_nil, List.append_nil]
    split
    · rename_i same
      rw [same]
    · rfl
  | cons first rest ih =>
    rw [addAll, List.foldl_cons, ← addAll, ih]
    split
    · simp
    · rename_i different
      simp [different]

theorem mem_attestations_addAll {store : Store} {image other : ImageReference}
    {list : List SignedAttestation} {attestation : SignedAttestation} :
    attestation ∈ (store.addAll image list).attestations other ↔
      attestation ∈ store.attestations other ∨ attestation ∈ list ∧ other = image := by
  rw [attestations_addAll]
  split
  · rename_i same
    simp [same]
  · rename_i different
    simp [different]

theorem mem_attestations_add {store : Store} {image other : ImageReference}
    {added attestation : SignedAttestation} :
    attestation ∈ (store.add image added).attestations other ↔
      attestation ∈ store.attestations other ∨ attestation = added ∧ other = image := by
  have alone : store.add image added = store.addAll image [added] := rfl
  rw [alone, mem_attestations_addAll, List.mem_singleton]

def Distinct (store : Store) : Prop :=
  (store.entries.map (·.1)).Nodup

theorem mem_append (image other : ImageReference) (attestation : SignedAttestation)
    (entries : List (ImageReference × List SignedAttestation)) :
    other ∈ (append image attestation entries).map (·.1) ↔
      other = image ∨ other ∈ entries.map (·.1) := by
  induction entries with
  | nil => simp [append]
  | cons entry rest ih =>
    obtain ⟨head, list⟩ := entry
    simp only [append]
    split
    · rename_i equal
      subst equal
      simp
    · simp only [List.map_cons, List.mem_cons, ih]
      exact or_left_comm

theorem add_distinct {store : Store} (image : ImageReference) (attestation : SignedAttestation)
    (distinct : store.Distinct) : (store.add image attestation).Distinct := by
  obtain ⟨entries⟩ := store
  simp only [Distinct, add] at distinct ⊢
  induction entries with
  | nil => simp [append]
  | cons entry rest ih =>
    obtain ⟨head, list⟩ := entry
    obtain ⟨fresh, others⟩ := List.nodup_cons.mp distinct
    simp only [append]
    split
    · rename_i equal
      subst equal
      exact distinct
    · rename_i different
      refine List.nodup_cons.mpr ⟨?_, ih others⟩
      intro member
      rcases (mem_append image head attestation rest).mp member with same | earlier
      · exact different same
      · exact fresh earlier

theorem addAll_distinct {store : Store} (image : ImageReference) (list : List SignedAttestation)
    (distinct : store.Distinct) : (store.addAll image list).Distinct := by
  induction list generalizing store with
  | nil => exact distinct
  | cons first rest ih => exact ih (add_distinct image first distinct)

theorem mem_toList {store : Store} (distinct : store.Distinct) (attestation : SignedAttestation) :
    attestation ∈ store.toList ↔ ∃ image, attestation ∈ store.attestations image := by
  simp only [toList, List.mem_mergeSort, List.mem_flatMap]
  constructor
  · intro given
    obtain ⟨⟨image, list⟩, entry, member⟩ := given
    refine ⟨image, ?_⟩
    rw [attestations, lookup_of_mem distinct entry]
    exact member
  · intro given
    obtain ⟨image, member⟩ := given
    rw [attestations] at member
    cases found : store.entries.lookup image with
    | none =>
      rw [found] at member
      cases member
    | some list =>
      rw [found] at member
      exact ⟨(image, list), mem_of_lookup found, member⟩

theorem append_perm (image : ImageReference) (attestation : SignedAttestation)
    (entries : List (ImageReference × List SignedAttestation)) :
    ((append image attestation entries).flatMap (·.2)).Perm
      (entries.flatMap (·.2) ++ [attestation]) := by
  induction entries with
  | nil => exact .refl _
  | cons entry rest ih =>
    obtain ⟨other, list⟩ := entry
    simp only [append]
    split
    · -- The attestation stands before those of the other images, and not after them.
      simp only [List.flatMap_cons, List.append_assoc]
      exact List.perm_append_comm.append_left list
    · simp only [List.flatMap_cons, List.append_assoc]
      exact ih.append_left list

theorem toList_perm (store : Store) : store.toList.Perm (store.entries.flatMap (·.2)) :=
  List.mergeSort_perm _ precedes

@[simp] theorem toList_empty : toList {} = [] := by
  simp [toList]

/-- What is kept of a store with one more attestation is what was kept before and the attestation. -/
theorem toList_add (store : Store) (image : ImageReference) (attestation : SignedAttestation) :
    (store.add image attestation).toList.Perm (store.toList ++ [attestation]) := by
  have more := append_perm image attestation store.entries
  exact (toList_perm _).trans (more.trans (store.toList_perm.symm.append_right _))

theorem toList_addAll (store : Store) (image : ImageReference) (list : List SignedAttestation) :
    (store.addAll image list).toList.Perm (store.toList ++ list) := by
  induction list generalizing store with
  | nil =>
    rw [List.append_nil]
    exact .refl _
  | cons first rest ih =>
    have later := ih (store.add image first)
    have here := (store.toList_add image first).append_right rest
    rw [List.append_assoc] at here
    exact later.trans here

end Attestor.Store
