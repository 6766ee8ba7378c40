import Attestor.Proofs.Store.Document

namespace Attestor

open Results

namespace Store

theorem precedes_trans (a b c : SignedAttestation) (first : precedes a b = true)
    (second : precedes b c = true) : precedes a c = true := by
  simp only [precedes, Bool.or_eq_true, Bool.and_eq_true, beq_iff_eq, decide_eq_true_eq]
    at first second ⊢
  rcases first with less | ⟨same, check⟩
  · rcases second with more | ⟨equal, _⟩
    · exact .inl (String.lt_trans less more)
    · rw [← equal]
      exact .inl less
  · rcases second with more | ⟨equal, later⟩
    · rw [same]
      exact .inl more
    · exact .inr ⟨same.trans equal, String.le_trans check later⟩

theorem precedes_total (a b : SignedAttestation) : (precedes a b || precedes b a) = true := by
  simp only [precedes, Bool.or_eq_true, Bool.and_eq_true, beq_iff_eq, decide_eq_true_eq]
  by_cases less : a.image < b.image
  · exact .inl (.inl less)
  · by_cases more : b.image < a.image
    · exact .inr (.inl more)
    · have same : a.image = b.image :=
        String.le_antisymm (String.not_lt.mp more) (String.not_lt.mp less)
      rcases String.le_total a.checkName b.checkName with first | second
      · exact .inl (.inr ⟨same, first⟩)
      · exact .inr (.inr ⟨same.symm, second⟩)

def states (image check : String) (attestation : SignedAttestation) : Bool :=
  attestation.image == image && attestation.checkName == check

/-- A list sorted by image and check, in which equal attestations stand as in the original. -/
structure StablySorted (original sorted : List SignedAttestation) : Prop where
  perm : sorted.Perm original
  ordered : sorted.Pairwise fun a b => precedes a b = true
  stable : ∀ image check, sorted.filter (states image check) = original.filter (states image check)

theorem states_precedes {image check : String} {a b : SignedAttestation}
    (first : states image check a = true) (second : states image check b = true) :
    precedes a b = true := by
  simp only [states, Bool.and_eq_true, beq_iff_eq] at first second
  obtain ⟨firstImage, firstCheck⟩ := first
  obtain ⟨secondImage, secondCheck⟩ := second
  simp only [precedes, firstImage, firstCheck, secondImage, secondCheck, Bool.or_eq_true,
    Bool.and_eq_true, beq_iff_eq, decide_eq_true_eq, true_and]
  exact .inr (String.le_refl check)

theorem mergeSort_stablySorted (list : List SignedAttestation) :
    StablySorted list (list.mergeSort precedes) where
  perm := List.mergeSort_perm list precedes
  ordered := List.pairwise_mergeSort precedes_trans precedes_total list
  stable image check := by
    have alike : (list.filter (states image check)).Pairwise fun a b => precedes a b = true := by
      refine List.pairwise_of_forall_mem_list fun a first b second => ?_
      exact states_precedes (List.mem_filter.mp first).2 (List.mem_filter.mp second).2
    have kept := List.sublist_mergeSort precedes_trans precedes_total alike List.filter_sublist
    have within := kept.filter (states image check)
    simp only [List.filter_filter, Bool.and_self] at within
    have size := ((List.mergeSort_perm list precedes).filter (states image check)).length_eq
    exact (within.eq_of_length size.symm).symm

theorem StablySorted.filter {original sorted : List SignedAttestation}
    (sorts : StablySorted original sorted) (test : SignedAttestation → Bool) :
    StablySorted (original.filter test) (sorted.filter test) where
  perm := sorts.perm.filter test
  ordered := sorts.ordered.filter test
  stable image check := by
    have swap (list : List SignedAttestation) : (list.filter test).filter (states image check) =
        (list.filter (states image check)).filter test := by
      simp only [List.filter_filter, Bool.and_comm]
    rw [swap, sorts.stable, swap]

/-- Every attestation stands under the image that the image it states is read as. -/
structure Filed (store : Store) : Prop where
  distinct : store.Distinct
  named : ∀ image, ∀ attestation ∈ store.attestations image,
    ImageReference.parse attestation.image = .ok image

def names (image : ImageReference) (attestation : SignedAttestation) : Bool :=
  image.isReadFrom attestation.image

theorem names_iff {image : ImageReference} {attestation : SignedAttestation} :
    names image attestation = true ↔ ImageReference.parse attestation.image = .ok image :=
  ImageReference.isReadFrom_iff

theorem filter_entries {entries : List (ImageReference × List SignedAttestation)}
    (distinct : (entries.map (·.1)).Nodup)
    (named : ∀ entry ∈ entries, ∀ attestation ∈ entry.2,
      ImageReference.parse attestation.image = .ok entry.1) (image : ImageReference) :
    (entries.flatMap (·.2)).filter (names image) = (entries.lookup image).getD [] := by
  induction entries with
  | nil => rfl
  | cons entry rest ih =>
    obtain ⟨place, list⟩ := entry
    obtain ⟨fresh, others⟩ := List.nodup_cons.mp distinct
    obtain ⟨here, later⟩ := List.forall_mem_cons.mp named
    have remaining := ih others later
    rw [List.flatMap_cons, List.filter_append, remaining, Associations.lookup_cons_ite]
    by_cases same : image = place
    · subst same
      have all : list.filter (names image) = list :=
        List.filter_eq_self.mpr fun attestation member => names_iff.mpr (here attestation member)
      have absent : rest.lookup image = none := by
        refine List.lookup_eq_none_iff.mpr fun other member => ?_
        have apart : image ≠ other.1 := fun equal =>
          fresh (List.mem_map.mpr ⟨other, member, equal.symm⟩)
        simpa using apart
      simp [all, absent]
    · have none : list.filter (names image) = [] := by
        refine List.filter_eq_nil_iff.mpr fun attestation member called => same ?_
        exact Except.ok.inj ((names_iff.mp called).symm.trans (here attestation member))
      simp [none, same]

theorem Filed.filter_eq {store : Store} (filed : store.Filed) (image : ImageReference) :
    (store.entries.flatMap (·.2)).filter (names image) = store.attestations image := by
  refine filter_entries filed.distinct (fun entry member attestation within => ?_) image
  refine filed.named entry.1 attestation ?_
  rw [attestations, Associations.lookup_of_mem filed.distinct member]
  exact within

/-- What is filed again comes to the end of the list of its image, in order. -/
theorem attestations_refileAll {list : List SignedAttestation} {before after : Store}
    (filed : list.foldlM refile before = .ok after) (image : ImageReference) :
    after.attestations image = before.attestations image ++ list.filter (names image) := by
  induction list generalizing before with
  | nil =>
    cases filed
    simp
  | cons first rest ih =>
    rw [List.foldlM_cons] at filed
    obtain ⟨middle, made, later⟩ := bind_ok_iff.mp filed
    obtain ⟨place, read, rfl⟩ := refile_ok_iff.mp made
    rw [ih later, attestations_add]
    by_cases same : image = place
    · subst same
      have called : names image first = true := names_iff.mpr read
      simp [called]
    · have other : names image first = false := by
        refine Bool.eq_false_iff.mpr fun called => same ?_
        exact Except.ok.inj ((names_iff.mp called).symm.trans read)
      simp [same, other]

/-- Whatever file a store is read from, its attestations are filed. -/
theorem ofList_filed {list : List SignedAttestation} {store : Store}
    (read : ofList list = .ok store) : store.Filed := by
  obtain ⟨distinct, members⟩ := refileAll_spec read
  refine ⟨distinct List.nodup_nil, fun image attestation member => ?_⟩
  rcases (members image attestation).mp member with impossible | ⟨_, named⟩
  · cases impossible
  · exact named

/-- A store that has been kept replaces whatever is held when it is read, and each image has its
attestations again, sorted by what they state. -/
theorem Filed.reload_document {store : Store} (filed : store.Filed) (path : String) :
    ∃ loaded,
      (∀ held : Store, held.reload path (some (.file (Text.encode store.document))) =
        (.ok (), loaded)) ∧
      loaded.Filed ∧
      ∀ image, StablySorted (store.attestations image) (loaded.attestations image) := by
  have readable : ∀ attestation ∈ store.toList,
      ∃ image, ImageReference.parse attestation.image = .ok image := by
    intro attestation member
    obtain ⟨image, within⟩ := (mem_toList filed.distinct attestation).mp member
    exact ⟨image, filed.named image attestation within⟩
  obtain ⟨loaded, refiled⟩ := refileAll_ok_iff.mpr readable
  refine ⟨loaded, fun held => ?_, ofList_filed refiled, fun image => ?_⟩
  · rw [reload, ofFile_document, refiled]
    rfl
  · have order := attestations_refileAll refiled image
    have sorts := (mergeSort_stablySorted (store.entries.flatMap (·.2))).filter (names image)
    rw [filed.filter_eq] at sorts
    rw [order]
    exact sorts

end Store

end Attestor
