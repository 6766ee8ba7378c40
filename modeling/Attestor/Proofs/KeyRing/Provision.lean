import Attestor.Proofs.CommandLine.Persistence
import Attestor.Proofs.Evidence.Catalogue
import Attestor.Proofs.KeyRing

namespace Attestor

open Results

theorem Secrets.ofJson_distinct {json : Json} {secrets : Secrets}
    (read : ofJson? json = some secrets) : (secrets.keys.map (·.1)).Nodup := by
  obtain ⟨fields, _, later⟩ := Option.bind_eq_some_iff.mp read
  obtain ⟨keys, listed, made⟩ := Option.bind_eq_some_iff.mp later
  cases made
  rw [Json.Fields.withDefault] at listed
  split at listed
  · exact Json.dictionary_distinct listed
  · cases listed
    exact List.nodup_nil

namespace KeyRing

def Refuses (now : Nat) (entry : String × String) (error : KeyRingError) : Prop :=
  Signer.ofArmored entry.1 (Text.encode entry.2) now = .error error

theorem not_refuses_iff {now : Nat} {entry : String × String} :
    (∀ error, ¬ Refuses now entry error) ↔
      ∃ signer, Signer.ofArmored entry.1 (Text.encode entry.2) now = .ok signer := by
  unfold Refuses
  cases Signer.ofArmored entry.1 (Text.encode entry.2) now <;> simp

def addEntry (now : Nat) (ring : KeyRing) (entry : String × String) : Except KeyRingError KeyRing := do
  let signer ← Signer.ofArmored entry.1 (Text.encode entry.2) now
  return ring.add entry.1 signer

theorem ofSecrets_eq (secrets : Secrets) (now : Nat) :
    ofSecrets secrets now = secrets.keys.foldlM (addEntry now) {} := rfl

theorem addEntry_ok_iff {now : Nat} {ring after : KeyRing} {entry : String × String} :
    addEntry now ring entry = .ok after ↔
      ∃ signer, Signer.ofArmored entry.1 (Text.encode entry.2) now = .ok signer ∧
        after = ring.add entry.1 signer := by
  rw [addEntry, bind_ok_iff]
  refine exists_congr fun signer => and_congr_right fun _ => ?_
  exact ⟨fun made => (Except.ok.inj made).symm, fun same => congrArg Except.ok same.symm⟩

theorem addEntry_error_iff {now : Nat} {ring : KeyRing} {entry : String × String}
    {error : KeyRingError} : addEntry now ring entry = .error error ↔ Refuses now entry error := by
  rw [addEntry, bind_error_iff, Refuses]
  refine or_iff_left ?_
  rintro ⟨signer, _, impossible⟩
  cases impossible

theorem ofSecrets_ok_iff {secrets : Secrets} {now : Nat} :
    (∃ ring, ofSecrets secrets now = .ok ring) ↔ ∀ entry ∈ secrets.keys,
      ∃ signer, Signer.ofArmored entry.1 (Text.encode entry.2) now = .ok signer := by
  simp only [ofSecrets_eq, ← not_refuses_iff]
  exact foldlM_ok_iff (fun _ => True) (Refuses now) (fun _ _ _ _ _ => trivial)
    (fun _ _ _ _ => addEntry_error_iff) trivial

theorem ofSecrets_error_iff {secrets : Secrets} {now : Nat} {error : KeyRingError} :
    ofSecrets secrets now = .error error ↔ FailsFirst (Refuses now) secrets.keys error := by
  rw [ofSecrets_eq]
  exact foldlM_error_iff (fun _ => True) (Refuses now) (fun _ _ _ _ _ => trivial)
    (fun _ _ _ _ => addEntry_error_iff) trivial

theorem names_put {name : String} {signers : List (String × Signer)}
    (fresh : name ∉ signers.map (·.1)) (signer : Signer) :
    (put name signer signers).map (·.1) = signers.map (·.1) ++ [name] := by
  induction signers with
  | nil => rfl
  | cons entry rest ih =>
    obtain ⟨other, old⟩ := entry
    obtain ⟨different, fresh⟩ := not_or.mp (mt List.mem_cons.mpr fresh)
    rw [put, if_neg (Ne.symm different), List.map_cons, ih fresh, List.map_cons, List.cons_append]

theorem names_foldlM {now : Nat} {entries : List (String × String)} {ring last : KeyRing}
    (loaded : entries.foldlM (addEntry now) ring = .ok last)
    (distinct : (ring.names ++ entries.map (·.1)).Nodup) :
    last.names = ring.names ++ entries.map (·.1) := by
  induction entries generalizing ring with
  | nil =>
    cases loaded
    exact (List.append_nil _).symm
  | cons entry rest ih =>
    rw [List.foldlM_cons] at loaded
    obtain ⟨middle, made, later⟩ := bind_ok_iff.mp loaded
    obtain ⟨signer, _, rfl⟩ := addEntry_ok_iff.mp made
    have fresh : entry.1 ∉ ring.names := by
      intro member
      exact (List.nodup_append.mp distinct).2.2 _ member entry.1 (by simp) rfl
    have names : (ring.add entry.1 signer).names = ring.names ++ [entry.1] :=
      names_put fresh signer
    have split : (ring.add entry.1 signer).names ++ rest.map (·.1) =
        ring.names ++ (entry :: rest).map (·.1) := by
      rw [names, List.append_assoc, List.singleton_append, List.map_cons]
    rw [ih later (split ▸ distinct), split]

theorem mem_names_iff {ring : KeyRing} {name : String} :
    name ∈ ring.names ↔ ∃ signer, ring.signer name = .ok signer := by
  simp only [names, signer_ok_iff, Associations.exists_lookup_iff]

theorem signer_of_not_mem {ring : KeyRing} {name : String} (missing : name ∉ ring.names) :
    ring.signer name = .error (.noSigner name) := by
  rw [signer, Associations.lookup_eq_none missing]

/-- A ring has exactly the names of a document, and under each the signer of its own entry. -/
structure Provided (ring : KeyRing) (secrets : Secrets) (now : Nat) : Prop where
  names : ∀ name, name ∈ ring.names ↔ ∃ armored, (name, armored) ∈ secrets.keys
  once : ring.names.Nodup
  signer : ∀ name armored, (name, armored) ∈ secrets.keys →
    ring.signer name = Signer.ofArmored name (Text.encode armored) now
  others : ∀ name, (∀ armored, (name, armored) ∉ secrets.keys) →
    ring.signer name = .error (.noSigner name)

theorem ofSecrets_provided {secrets : Secrets} {now : Nat} {ring : KeyRing}
    (distinct : (secrets.keys.map (·.1)).Nodup) (loaded : ofSecrets secrets now = .ok ring) :
    ring.Provided secrets now := by
  have whole : ring.names = secrets.keys.map (·.1) := names_foldlM loaded distinct
  have listed (name : String) : name ∈ ring.names ↔ ∃ armored, (name, armored) ∈ secrets.keys := by
    rw [whole]
    simp
  refine ⟨listed, whole ▸ distinct, ?_, ?_⟩
  · intro name armored member
    obtain ⟨signer, found⟩ := mem_names_iff.mp ((listed name).mpr ⟨armored, member⟩)
    obtain ⟨other, provided, read⟩ := ofSecrets_signer loaded found
    have entry := List.mem_reverse.mp (Associations.mem_of_lookup provided)
    have same := (Associations.lookup_of_mem distinct entry).symm.trans
      (Associations.lookup_of_mem distinct member)
    rw [found, ← Option.some.inj same, read]
  · intro name missing
    refine signer_of_not_mem fun member => ?_
    obtain ⟨armored, entry⟩ := (listed name).mp member
    exact missing armored entry

theorem Provided.perm {ring : KeyRing} {secrets other : Secrets} {now : Nat}
    (provided : ring.Provided secrets now) (perm : secrets.keys.Perm other.keys) :
    ring.Provided other now := by
  have same (entry : String × String) : entry ∈ secrets.keys ↔ entry ∈ other.keys := perm.mem_iff
  obtain ⟨names, once, signer, others⟩ := provided
  simp only [same] at names signer others
  exact ⟨names, once, signer, others⟩

/-- In whatever order the entries of a document are visited, the ring is provided if each of them makes a
signer, and then each name has the signer of its own entry. Else there is no ring, and the error is that of
the first entry in this order that makes none. -/
theorem ofSecrets_spec {secrets : Secrets} (distinct : (secrets.keys.map (·.1)).Nodup)
    {order : List (String × String)} (perm : order.Perm secrets.keys) (now : Nat) :
    ((∃ ring, ofSecrets { keys := order } now = .ok ring) ↔ ∀ name armored,
      (name, armored) ∈ secrets.keys →
        ∃ signer, Signer.ofArmored name (Text.encode armored) now = .ok signer) ∧
    (∀ ring, ofSecrets { keys := order } now = .ok ring → ring.Provided secrets now) ∧
    ∀ error, ofSecrets { keys := order } now = .error error →
      ∃ earlier name armored later, order = earlier ++ (name, armored) :: later ∧
        (name, armored) ∈ secrets.keys ∧
        Signer.ofArmored name (Text.encode armored) now = .error error ∧
        ∀ entry ∈ earlier, ∃ signer,
          Signer.ofArmored entry.1 (Text.encode entry.2) now = .ok signer := by
  refine ⟨?_, ?_, ?_⟩
  · rw [ofSecrets_ok_iff]
    simp only [perm.mem_iff, Prod.forall]
  · intro ring loaded
    have apart : (order.map (·.1)).Nodup := (perm.map _).nodup_iff.mpr distinct
    have provided : ring.Provided { keys := order } now := ofSecrets_provided apart loaded
    exact provided.perm perm
  · intro error refused
    obtain ⟨earlier, ⟨name, armored⟩, later, split, fine, fails⟩ := ofSecrets_error_iff.mp refused
    have split : order = earlier ++ (name, armored) :: later := split
    have member : (name, armored) ∈ order := by
      rw [split]
      simp
    exact ⟨earlier, name, armored, later, split, perm.mem_iff.mp member, fails,
      fun entry before => not_refuses_iff.mp (fine entry before)⟩

section

open CommandLine (Sample.armored Sample.signer Sample.reads_key)

/-- A document for two checks, visited from its end, and the same one with a text that is no key. -/
theorem ofSecrets_spec_reversed :
    let entries := [("diy", Sample.armored), ("snakeoil", Sample.armored)]
    let spoilt := ("org", "not a key") :: entries
    let document (entries : List (String × String)) : Json :=
      .record [("openpgpkeys", .record (entries.map fun (name, key) => (name, .text key)))]
    Secrets.ofJson? (document entries) = some { keys := entries } ∧
    Secrets.ofJson? (document spoilt) = some { keys := spoilt } ∧
    (∃ ring, ofSecrets { keys := entries.reverse } 5 = .ok ring ∧
      ring.signer "diy" = .ok Sample.signer ∧ ring.signer "Diy" = .error (.noSigner "Diy")) ∧
    ofSecrets { keys := spoilt.reverse } 5 = .error (.parseKey "org") := by
  intro entries spoilt document
  have read : Secrets.ofJson? (document entries) = some { keys := entries } := rfl
  have readSpoilt : Secrets.ofJson? (document spoilt) = some { keys := spoilt } := rfl
  have diy := Sample.reads_key
  have good : ∀ name armored, (name, armored) ∈ entries →
      Signer.ofArmored name (Text.encode armored) 5 = .ok Sample.signer := by
    intro name armored member
    simp only [entries, List.mem_cons, List.not_mem_nil, or_false, Prod.mk.injEq] at member
    rcases member with ⟨_, rfl⟩ | ⟨_, rfl⟩
    · exact Signer.ofArmored_name diy
    · exact Signer.ofArmored_name diy
  have bad : Signer.ofArmored "org" (Text.encode "not a key") 5 = .error (.parseKey "org") := by
    decide +kernel
  refine ⟨read, readSpoilt, ?_, ?_⟩
  · obtain ⟨loads, provides, _⟩ :=
      ofSecrets_spec (Secrets.ofJson_distinct read) (List.reverse_perm entries) 5
    obtain ⟨ring, loaded⟩ := loads.mpr fun name armored member => ⟨_, good name armored member⟩
    have provided := provides ring loaded
    refine ⟨ring, loaded, ?_, provided.others "Diy" (by simp [entries])⟩
    rw [provided.signer "diy" Sample.armored (by simp [entries]), diy]
  · obtain ⟨loads, _, fails⟩ :=
      ofSecrets_spec (Secrets.ofJson_distinct readSpoilt) (List.reverse_perm spoilt) 5
    cases ended : ofSecrets { keys := spoilt.reverse } 5 with
    | ok ring =>
      obtain ⟨signer, made⟩ := loads.mp ⟨ring, ended⟩ "org" "not a key" (by simp [spoilt])
      cases bad.symm.trans made
    | error error =>
      obtain ⟨_, name, armored, _, _, member, refused, _⟩ := fails error ended
      rcases List.mem_cons.mp member with same | member
      · cases same
        rw [Except.error.inj (refused.symm.trans bad)]
      · cases (good name armored member).symm.trans refused

end

end KeyRing

end Attestor
