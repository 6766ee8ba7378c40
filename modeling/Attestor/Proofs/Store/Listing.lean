import Attestor.Proofs.Store.Order

namespace Attestor.Store

open Associations

theorem precedes_antisymm {a b : SignedAttestation} (first : precedes a b = true)
    (second : precedes b a = true) : a.image = b.image ∧ a.checkName = b.checkName := by
  simp only [precedes, Bool.or_eq_true, Bool.and_eq_true, beq_iff_eq, decide_eq_true_eq]
    at first second
  rcases first with less | ⟨same, check⟩
  · rcases second with more | ⟨same, _⟩
    · exact absurd (String.lt_trans less more) (String.lt_irrefl _)
    · exact absurd (same ▸ less) (String.lt_irrefl _)
  · rcases second with more | ⟨_, later⟩
    · exact absurd (same ▸ more) (String.lt_irrefl _)
    · exact ⟨same, String.le_antisymm check later⟩

theorem states_self (attestation : SignedAttestation) :
    states attestation.image attestation.checkName attestation = true := by
  simp [states]

section

variable {list other : List SignedAttestation}

theorem mem_of_states
    (same : ∀ image check, list.filter (states image check) = other.filter (states image check))
    {attestation : SignedAttestation} (member : attestation ∈ list) : attestation ∈ other := by
  have stated : attestation ∈ list.filter (states attestation.image attestation.checkName) :=
    List.mem_filter.mpr ⟨member, states_self attestation⟩
  rw [same] at stated
  exact (List.mem_filter.mp stated).1

/-- Sorted lists are the same if they have the same attestations for each image and check, in the same
order. -/
theorem eq_of_states (sorted : list.Pairwise fun a b => precedes a b = true)
    (ordered : other.Pairwise fun a b => precedes a b = true)
    (same : ∀ image check, list.filter (states image check) = other.filter (states image check)) :
    list = other := by
  -- Sorting leaves open how attestations for one image and check stand, so that it does not suffice
  -- for the lists to be permutations of each other.
  induction list generalizing other with
  | nil =>
    refine (List.eq_nil_iff_forall_not_mem.mpr fun attestation member => ?_).symm
    exact List.not_mem_nil (mem_of_states (fun image check => (same image check).symm) member)
  | cons a list ih =>
    cases other with
    | nil => exact absurd (mem_of_states same (List.mem_cons_self ..)) List.not_mem_nil
    | cons b other =>
      obtain ⟨least, tail⟩ := List.pairwise_cons.mp sorted
      obtain ⟨first, rest⟩ := List.pairwise_cons.mp ordered
      have equal : a = b := by
        rcases List.mem_cons.mp (mem_of_states same (List.mem_cons_self ..)) with equal | later
        · exact equal
        have back := mem_of_states (fun image check => (same image check).symm)
          (List.mem_cons_self (a := b) (l := other))
        rcases List.mem_cons.mp back with equal | behind
        · exact equal.symm
        obtain ⟨image, check⟩ := precedes_antisymm (least b behind) (first a later)
        have alike := same a.image a.checkName
        have stated : states a.image a.checkName b = true := by simp [states, image, check]
        rw [List.filter_cons_of_pos (states_self a), List.filter_cons_of_pos stated] at alike
        exact (List.cons_eq_cons.mp alike).1
      subst equal
      refine congrArg (a :: ·) (ih tail rest fun image check => ?_)
      have alike := same image check
      simp only [List.filter_cons] at alike
      split at alike
      · exact (List.cons_eq_cons.mp alike).2
      · exact alike

end

theorem toList_stablySorted (store : Store) :
    StablySorted (store.entries.flatMap (·.2)) store.toList :=
  mergeSort_stablySorted _

theorem filed_iff {store : Store} :
    store.Filed ↔ store.Distinct ∧ ∀ entry ∈ store.entries, ∀ attestation ∈ entry.2,
      names entry.1 attestation = true := by
  constructor
  · intro filed
    refine ⟨filed.distinct, fun entry member attestation within => names_iff.mpr ?_⟩
    refine filed.named entry.1 attestation ?_
    rw [attestations, lookup_of_mem filed.distinct member]
    exact within
  · rintro ⟨distinct, named⟩
    refine ⟨distinct, fun image attestation member => ?_⟩
    rw [attestations] at member
    cases found : store.entries.lookup image with
    | none =>
      rw [found] at member
      cases member
    | some list =>
      rw [found] at member
      exact names_iff.mp (named _ (mem_of_lookup found) attestation member)

namespace Filed

variable {store other : Store}

theorem filter_states (filed : store.Filed) (image check : String) :
    (store.entries.flatMap (·.2)).filter (states image check) =
      match ImageReference.parse image with
      | .ok place => (store.attestations place).filter (states image check)
      | .error _ => [] := by
  cases read : ImageReference.parse image with
  | ok place =>
    have named (attestation : SignedAttestation) (stated : states image check attestation = true) :
        names place attestation = true := by
      simp only [states, Bool.and_eq_true, beq_iff_eq] at stated
      rw [names_iff, stated.1, read]
    dsimp only
    rw [← filed.filter_eq place, List.filter_filter]
    refine List.filter_congr fun attestation _ => ?_
    cases stated : states image check attestation with
    | true => rw [named attestation stated]; rfl
    | false => rfl
  | error error =>
    refine List.filter_eq_nil_iff.mpr fun attestation member stated => ?_
    obtain ⟨entry, listed, within⟩ := List.mem_flatMap.mp member
    have named := names_iff.mp ((filed_iff.mp filed).2 entry listed attestation within)
    simp only [states, Bool.and_eq_true, beq_iff_eq] at stated
    rw [stated.1, read] at named
    cases named

/-- Stores are kept in the same list if each image has the same attestations for each check in them. -/
theorem toList_congr (filed : store.Filed) (beside : other.Filed)
    (same : ∀ place image check, (other.attestations place).filter (states image check) =
      (store.attestations place).filter (states image check)) :
    other.toList = store.toList := by
  have sorted := store.toList_stablySorted
  have ordered := other.toList_stablySorted
  refine eq_of_states ordered.ordered sorted.ordered fun image check => ?_
  rw [ordered.stable, sorted.stable, filed.filter_states, beside.filter_states]
  cases ImageReference.parse image with
  | ok place => exact same place image check
  | error error => rfl

theorem toList_perm_entries (filed : store.Filed) (perm : other.entries.Perm store.entries) :
    other.toList = store.toList := by
  obtain ⟨distinct, named⟩ := filed_iff.mp filed
  have beside : other.Filed := filed_iff.mpr
    ⟨(perm.map _).nodup_iff.mpr distinct, fun entry member => named entry (perm.mem_iff.mp member)⟩
  refine filed.toList_congr beside fun place image check => ?_
  rw [attestations, attestations, lookup_perm distinct perm]

theorem document_perm_entries (filed : store.Filed) (perm : other.entries.Perm store.entries) :
    other.document = store.document := by
  rw [document, document, filed.toList_perm_entries perm]

theorem reload_document_toList (filed : store.Filed) (path : String) :
    ∃ loaded, (∀ held : Store, held.reload path (some (.file (Text.encode store.document))) =
        (.ok (), loaded)) ∧
      loaded.Filed ∧ loaded.toList = store.toList := by
  obtain ⟨loaded, reloads, again, sorted⟩ := filed.reload_document path
  refine ⟨loaded, reloads, again, filed.toList_congr again fun place image check => ?_⟩
  exact (sorted place).stable image check

end Filed

end Attestor.Store
