import Attestor.Proofs.CommandLine.Persistence
import Attestor.Proofs.Engine.Coherence
import Attestor.Proofs.Image.Identity

namespace Attestor

open OpenPgp

/-- The attestation in the name of another check and its key, with the signature that it has. -/
def SignedAttestation.relabelled (attestation : SignedAttestation) (name : String)
    (signer : Signer) : SignedAttestation :=
  { attestation with checkName := name, keyId := signer.keyId }

/-- What is assumed of the signatures over a body that the signers of a ring make at a time: each is a
signature by its key, and by no other key of the certificates in the ring. -/
structure KeyRing.Binds (ring : KeyRing) (now : Nat) (body : List UInt8) : Prop where
  genuine : ∀ name signer, ring.signer name = .ok signer → signer.isGenuine now body = true
  exclusive : ∀ name signer key seed, ring.signer name = .ok signer →
    Signer.seedAt? signer.certificate now = some (key, seed) →
    ∀ otherName other, ring.signer otherName = .ok other →
      ∀ status ∈ other.certificate.keysAt now,
        (Detached.signature key seed now body).mayBeBy status.key.publicPart = true →
        (Detached.signature key seed now body).holds status.key.publicPart body = true →
        status.key.publicPart = key

section

variable {keyring : KeyRing} {image : ImageReference} {now : Nat} {body first second : String}
  {attestation : SignedAttestation} {signer other : Signer} {key : PublicKey} {seed : List UInt8}

/-- What one signer signs is verified by the certificate of another one that its key counts for. -/
theorem KeyRing.Binds.verify_iff (binds : keyring.Binds now (Text.encode body)) (later : Nat)
    (found : keyring.signer first = .ok signer)
    (chosen : Signer.seedAt? signer.certificate now = some (key, seed))
    (small : now < Nat.pow 2 32) (beside : keyring.signer second = .ok other) :
    Detached.verify other.publicCertificate later (Text.encode body)
        (Text.encode (Detached.sign key seed now (Text.encode body))) = true ↔
      now ≤ later + Detached.tolerance ∧ other.certificate.trusts key now = true := by
  have holds := Signer.holds_of_genuine chosen small (binds.genuine first signer found)
  have exclusive := binds.exclusive first signer key seed found chosen second other beside
  rw [Detached.verify_sign, Signer.publicCertificate, Detached.isGood_stripped]
  exact Detached.isGood_signature small holds exclusive

/-- An attestation under the name of another check counts for that check exactly if the certificate of
the check trusts the key that signed. -/
theorem SignedAttestation.relabelled_vouches (binds : keyring.Binds now (Text.encode body))
    (made : keyring.attest now first body image = .ok attestation)
    (beside : keyring.signer second = .ok other) :
    ∃ signer key seed, keyring.signer first = .ok signer ∧
      Signer.seedAt? signer.certificate now = some (key, seed) ∧ ∀ later,
        ((attestation.relabelled second other).vouches other second image later = true ↔
          (∃ payload, Payload.ofBody? body = some payload ∧ payload.refersTo image = true) ∧
            now ≤ later + Detached.tolerance ∧ other.certificate.trusts key now = true) := by
  obtain ⟨signer, found, signed, _, canonical, same, _⟩ := KeyRing.attest_spec made
  obtain ⟨key, seed, chosen, small, text⟩ := Signer.sign_ok_iff.mp signed
  refine ⟨signer, key, seed, found, chosen, fun later => ?_⟩
  have good := binds.verify_iff later found chosen small beside
  simp only [vouches, relabelled, canonical, same, ← text, beq_self_eq_true, Bool.true_and,
    Bool.and_eq_true, Option.any_eq_true, good]

end

namespace Engine

variable {engine : Engine} {image : ImageReference} {now : Nat} {name : String}
  {before after : List SignedAttestation}

theorem attestedResult_skip {extra : SignedAttestation}
    (apart : extra.checkName ≠ name) :
    engine.attestedResult image now (before ++ extra :: after) name =
      engine.attestedResult image now (before ++ after) name := by
  unfold attestedResult
  cases engine.keyring.signer name with
  | error error => rfl
  | ok signer =>
    have idle : extra.vouches signer name image now = false := by
      refine Bool.eq_false_iff.mpr fun counts => apart ?_
      exact (SignedAttestation.vouches_iff.mp counts).check
    simp only [List.find?_append, List.find?_cons, idle]

theorem attestedResult_attested {list : List SignedAttestation} {signer : Signer}
    (found : engine.keyring.signer name = .ok signer) :
    (engine.attestedResult image now list name).attested = true ↔
      ∃ attestation ∈ list, attestation.vouches signer name image now = true := by
  have verdict := attestedResult_verdict engine image now list name
  rw [← verdict.confirms.attested, verdict.success_iff]
  simp only [SignedAttestation.vouches_iff, found, Except.ok.injEq, exists_eq_left']

theorem mem_attestedResults {list : List SignedAttestation} {result : CheckResult} :
    result ∈ engine.names.map (engine.attestedResult image now list) ↔
      result.name ∈ engine.names ∧ engine.attestedResult image now list result.name = result := by
  constructor
  · intro member
    obtain ⟨other, registered, rfl⟩ := List.mem_map.mp member
    have named := (attestedResult_verdict engine image now list other).name_eq
    rw [named]
    exact ⟨registered, rfl⟩
  · intro given
    obtain ⟨registered, same⟩ := given
    exact List.mem_map.mpr ⟨result.name, registered, same⟩

theorem attestedResults_iff {list : List SignedAttestation} {signer : Signer}
    (found : engine.keyring.signer name = .ok signer) :
    (∃ result ∈ engine.names.map (engine.attestedResult image now list),
        result.name = name ∧ result.attested = true) ↔
      name ∈ engine.names ∧
        ∃ attestation ∈ list, attestation.vouches signer name image now = true := by
  rw [← attestedResult_attested found]
  constructor
  · intro given
    obtain ⟨result, member, rfl, attested⟩ := given
    obtain ⟨registered, same⟩ := mem_attestedResults.mp member
    rw [same]
    exact ⟨registered, attested⟩
  · intro given
    obtain ⟨registered, attested⟩ := given
    have named := (attestedResult_verdict engine image now list name).name_eq
    exact ⟨_, List.mem_map_of_mem registered, named, attested⟩

/-- In an engine with the keys of a document, an attestation that was signed for one check and put
under the name of another makes no difference to the other checks. It makes that other check attested
exactly if what was signed is about the image and the certificate of the check trusts the key that
signed, and where the document provides one key for both it does unless the certificate is revoked. -/
theorem relabelled_attested_iff {secrets : Secrets} {loaded : Nat} {keyring : KeyRing}
    (accepted : KeyRing.ofSecrets secrets loaded = .ok keyring) {body first second : String}
    (binds : keyring.Binds now (Text.encode body)) {attestation : SignedAttestation}
    (made : keyring.attest now first body image = .ok attestation) {other : Signer}
    (beside : keyring.signer second = .ok other) :
    ∃ signer key seed, keyring.signer first = .ok signer ∧
      Signer.seedAt? signer.certificate now = some (key, seed) ∧
      (secrets.key? first = secrets.key? second →
        other.certificate.trusts key now = !other.certificate.isRevoked now) ∧
      ∀ (service : MetadataService) (history : List Change) (later : Nat) (store honest : Store)
        (before after : List SignedAttestation),
        service.attestations image store =
          .value (before ++ attestation.relabelled second other :: after) →
        service.attestations image honest = .value (before ++ after) →
        ∃ report usual,
          (build service keyring history).verify image later false store = .value report ∧
          (build service keyring history).verify image later false honest = .value usual ∧
          (∀ result, result.name ≠ second →
            (result ∈ report.results ↔ result ∈ usual.results)) ∧
          ((∃ result ∈ report.results, result.name = second ∧ result.attested = true) ↔
            (∃ result ∈ usual.results, result.name = second ∧ result.attested = true) ∨
              second ∈ (build service keyring history).names ∧
                (∃ payload, Payload.ofBody? body = some payload ∧
                  payload.refersTo image = true) ∧
                now ≤ later + Detached.tolerance ∧
                other.certificate.trusts key now = true) := by
  obtain ⟨signer, key, seed, found, chosen, counts⟩ :=
    SignedAttestation.relabelled_vouches binds made beside
  refine ⟨signer, key, seed, found, chosen, ?_, ?_⟩
  · -- Then both checks have one signer, and a signer can use the key that it signs with.
    intro same
    obtain rfl := KeyRing.ofSecrets_shared accepted found beside same
    obtain ⟨status, member, usable, rfl⟩ := Signer.seedAt_spec chosen
    exact Certificate.trusts_own member usable
  · intro service history later store honest before after held plain
    let engine := build service keyring history
    have metadata : engine.metadata = service := build_metadata ..
    have ring : engine.keyring.signer second = .ok other := by
      rw [build_keyring]
      exact beside
    refine ⟨_, _, verify_value (by rw [metadata]; exact held),
      verify_value (by rw [metadata]; exact plain), ?_, ?_⟩
    · intro result elsewhere
      have same : engine.attestedResult image later
          (before ++ attestation.relabelled second other :: after) result.name =
            engine.attestedResult image later (before ++ after) result.name :=
        attestedResult_skip elsewhere.symm
      refine mem_attestedResults.trans (Iff.trans ?_ mem_attestedResults.symm)
      rw [same]
    · refine (attestedResults_iff ring).trans
        (Iff.trans ?_ (or_congr_left (attestedResults_iff ring)).symm)
      rw [← counts later, ← and_or_left]
      refine and_congr_right fun _ => ?_
      simp only [List.mem_append, List.mem_cons]
      constructor
      · intro given
        obtain ⟨vouching, earlier | rfl | later, good⟩ := given
        · exact .inl ⟨vouching, .inl earlier, good⟩
        · exact .inr good
        · exact .inl ⟨vouching, .inr later, good⟩
      · intro given
        rcases given with ⟨vouching, earlier | later, good⟩ | good
        · exact ⟨vouching, .inl earlier, good⟩
        · exact ⟨vouching, .inr (.inr later), good⟩
        · exact ⟨_, .inr (.inl rfl), good⟩

section

open CommandLine (Sample.armored Sample.signer Sample.reads_key)

def sharedSecrets : Secrets :=
  { keys := [("diy", Sample.armored), ("snakeoil", Sample.armored)] }

def sharedRing : KeyRing :=
  { signers := [("diy", Sample.signer), ("snakeoil", Sample.signer)] }

theorem sharedSecrets_accepted : KeyRing.ofSecrets sharedSecrets 5 = .ok sharedRing := by
  have first := Sample.reads_key
  have second : Signer.ofArmored "snakeoil" (Text.encode Sample.armored) 5 = .ok Sample.signer :=
    Signer.ofArmored_name first
  refine Results.bind_ok_iff.mpr ⟨_, Results.bind_ok_iff.mpr ⟨_, first, rfl⟩, ?_⟩
  exact Results.bind_ok_iff.mpr ⟨_, Results.bind_ok_iff.mpr ⟨_, second, rfl⟩, rfl⟩

theorem sharedRing_signer {name : String} {signer : Signer}
    (found : sharedRing.signer name = .ok signer) : signer = Sample.signer := by
  have entry := Associations.mem_of_lookup (KeyRing.signer_ok_iff.mp found)
  simp only [sharedRing, List.mem_cons, List.not_mem_nil, or_false, Prod.mk.injEq] at entry
  rcases entry with ⟨_, same⟩ | ⟨_, same⟩
  · exact same
  · exact same

theorem sharedRing_binds :
    sharedRing.Binds 5 (Text.encode (Payload.ofImage sampleImage).body) := by
  have alone : ∀ status ∈ Sample.signer.certificate.keysAt 5,
      status.key = Sample.signer.certificate.primary.subject := by
    intro status member
    rcases Certificate.mem_keysAt member with primary | ⟨subkey, impossible, _⟩
    · exact primary
    · cases impossible
  constructor
  · intro name signer found
    rw [sharedRing_signer found]
    exact bare_genuine.2.1
  · intro name signer key seed found chosen otherName other beside status member _ _
    rw [sharedRing_signer found] at chosen
    rw [sharedRing_signer beside] at member
    obtain ⟨signing, listed, _, rfl⟩ := Signer.seedAt_spec chosen
    rw [alone status member, alone signing listed]

theorem sharedRing_attests : ∃ attestation, attestation.checkName = "diy" ∧
    sharedRing.attest 5 "diy" (Payload.ofImage sampleImage).body sampleImage = .ok attestation := by
  obtain ⟨⟨key, seed⟩, chosen⟩ := Option.isSome_iff_exists.mp bare_genuine.1
  have signed : Sample.signer.sign 5 (Text.encode (Payload.ofImage sampleImage).body) = .ok _ :=
    Signer.sign_ok_iff.mpr ⟨key, seed, chosen, by decide, rfl⟩
  have diy : sharedRing.signer "diy" = .ok Sample.signer := rfl
  have made := KeyRing.attest_of_signer diy 5 (Payload.ofImage sampleImage).body sampleImage
  rw [signed] at made
  exact ⟨_, rfl, made⟩

/-- With one key for two checks, the attestation of the check that passes counts for the check that
never does. -/
theorem relabelled_attested_iff_shared :
    let history : List Change := [
      .register "diy" { decide := fun _ => .value () },
      .register "snakeoil" { decide := fun _ => .failure (.rejected .notSigned) }]
    let engine := build (Catalogue.service {}) sharedRing history
    ∃ attestation other, sharedRing.signer "snakeoil" = .ok other ∧
      sharedRing.attest 5 "diy" (Payload.ofImage sampleImage).body sampleImage =
        .ok attestation ∧
      let honest := Store.add {} sampleImage attestation
      let store := honest.add sampleImage (attestation.relabelled "snakeoil" other)
      ∃ report usual, engine.verify sampleImage 5 false store = .value report ∧
        engine.verify sampleImage 5 false honest = .value usual ∧
        (∃ result ∈ report.results, result.name = "snakeoil" ∧ result.attested = true) ∧
        ∀ result ∈ usual.results, result.name = "snakeoil" → result.attested = false := by
  intro history engine
  obtain ⟨attestation, diy, made⟩ := sharedRing_attests
  have snakeoil : sharedRing.signer "snakeoil" = .ok Sample.signer := rfl
  obtain ⟨_, _, _, _, _, shared, verified⟩ :=
    relabelled_attested_iff sharedSecrets_accepted sharedRing_binds made snakeoil
  let honest := Store.add {} sampleImage attestation
  have plain : honest.attestations sampleImage = [attestation] := by
    rw [Store.attestations_add, if_pos rfl]
    rfl
  have held : (honest.add sampleImage
      (attestation.relabelled "snakeoil" Sample.signer)).attestations sampleImage =
        [attestation, attestation.relabelled "snakeoil" Sample.signer] := by
    rw [Store.attestations_add, if_pos rfl, plain]
    rfl
  obtain ⟨report, usual, reported, before, _, attested⟩ :=
    verified (Catalogue.service {}) history 5 _ honest [attestation] []
      (congrArg Reply.value held) (congrArg Reply.value plain)
  refine ⟨attestation, _, snakeoil, made, report, usual, reported, before, ?_, ?_⟩
  · have registered : "snakeoil" ∈ engine.names := (mem_names_build ..).mpr rfl
    have statement := Payload.ofBody_body (Payload.ofImage sampleImage)
    have about := (Payload.refersTo_ofImage sampleImage sampleImage).mpr rfl
    have trusted := (shared rfl).trans (congrArg Bool.not bare_genuine.2.2)
    exact attested.mpr (.inr ⟨registered, ⟨_, statement, about⟩, by decide, trusted⟩)
  · intro result member named
    obtain ⟨_, list, stored, rfl⟩ := verify_value_iff.mp before
    rw [build_metadata] at stored
    cases (congrArg Reply.value plain).symm.trans stored
    refine Bool.eq_false_iff.mpr fun success => ?_
    have ring : engine.keyring.signer "snakeoil" = .ok Sample.signer := by
      rw [build_keyring]
      exact snakeoil
    obtain ⟨_, other, only, vouching⟩ :=
      (attestedResults_iff ring).mp ⟨result, member, named, success⟩
    obtain rfl := List.mem_singleton.mp only
    have check := (SignedAttestation.vouches_iff.mp vouching).check
    exact absurd (diy.symm.trans check) (by decide)

end

end Engine

end Attestor
