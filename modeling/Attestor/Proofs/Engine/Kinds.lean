import Attestor.Proofs.Engine.Relabelling

namespace Attestor

open OpenPgp

def Payload.ofKind (image : ImageReference) (kind : String) : Payload :=
  { ofImage image with kind }

def SignedAttestation.ofKind (signer : Signer) (name : String) (image : ImageReference)
    (kind signature : String) : SignedAttestation :=
  { checkName := name
    image := image.canonical
    body := (Payload.ofKind image kind).body
    signature
    keyId := signer.keyId }

section

variable {signer : Signer} {name kind signature : String} {image : ImageReference} {later : Nat}
  {attestation : SignedAttestation}

theorem SignedAttestation.ofKind_vouches (name : String) :
    (ofKind signer name image kind signature).Vouches signer name image later ↔
      Detached.verify signer.publicCertificate later
        (Text.encode (Payload.ofKind image kind).body) (Text.encode signature) = true := by
  constructor
  · exact Vouches.signature
  · intro good
    exact ⟨rfl, rfl, rfl, ⟨_, Payload.ofBody_body _, rfl, rfl⟩, good⟩

theorem SignedAttestation.Vouches.payload
    (counts : attestation.Vouches signer name image later) :
    ∃ kind, Payload.ofBody? attestation.body = some (.ofKind image kind) := by
  obtain ⟨⟨reference, digest, kind⟩, read, rfl, rfl⟩ := counts.statement
  exact ⟨kind, read⟩

end

namespace Engine

variable {engine : Engine} {image : ImageReference} {later : Nat} {list : List SignedAttestation}
  {name : String}

theorem Verdict.of_attestation {keyring : KeyRing} {result : CheckResult}
    {attestation : SignedAttestation} (verdict : Verdict keyring image later list name result)
    (reported : result.attestation = some attestation) :
    ∃ signer, keyring.signer name = .ok signer ∧ attestation.Vouches signer name image later := by
  cases verdict with
  | unsigned => cases reported
  | unattested => cases reported
  | attested signer _ _ _ found _ good =>
    cases reported
    exact ⟨signer, found, good⟩

theorem attestedResult_first {signer : Signer} {attestation : SignedAttestation}
    {before after : List SignedAttestation} (found : engine.keyring.signer name = .ok signer)
    (split : list = before ++ attestation :: after)
    (good : attestation.Vouches signer name image later)
    (first : ∀ earlier ∈ before, ¬ earlier.Vouches signer name image later) :
    engine.attestedResult image later list name = .attestedBy name attestation := by
  have counts := SignedAttestation.vouches_iff.mpr good
  have search : list.find? (·.vouches signer name image later) = some attestation := by
    refine List.find?_eq_some_iff_append.mpr ⟨counts, before, after, split, ?_⟩
    intro earlier member
    rw [Bool.not_eq_true']
    exact Bool.eq_false_iff.mpr (mt SignedAttestation.vouches_iff.mp (first earlier member))
  simp only [attestedResult, found, search]

/-- An attestation that verification reports has a payload that agrees with the one for the image in
everything but the kind. Whatever the kind is, an attestation of the image by the key of a check is
reported exactly if the check is registered and the signature is good, unless an earlier one
counts. -/
theorem verify_any_kind {service : MetadataService} {keyring : KeyRing} {history : List Change}
    {store : Store} (held : service.attestations image store = .value list) :
    ∃ report, (build service keyring history).verify image later false store = .value report ∧
      (∀ result ∈ report.results, ∀ attestation, result.attestation = some attestation →
        ∃ kind, Payload.ofBody? attestation.body = some (.ofKind image kind)) ∧
      ∀ name signer kind signature before after, keyring.signer name = .ok signer →
        list = before ++ .ofKind signer name image kind signature :: after →
        (∀ earlier ∈ before, ¬ earlier.Vouches signer name image later) →
        ((∃ result ∈ report.results, result.name = name ∧
            result.attestation = some (.ofKind signer name image kind signature)) ↔
          (Change.latest? history name).isSome ∧
            Detached.verify signer.publicCertificate later
              (Text.encode (Payload.ofKind image kind).body) (Text.encode signature) = true) := by
  let engine := build service keyring history
  have ring : engine.keyring = keyring := build_keyring ..
  have verified : engine.verify image later false store = _ :=
    verify_value (by rw [build_metadata]; exact held)
  refine ⟨_, verified, ?_, ?_⟩
  · intro result member attestation reported
    obtain ⟨name, _, rfl⟩ := List.mem_map.mp member
    have verdict := attestedResult_verdict engine image later list name
    obtain ⟨signer, _, good⟩ := verdict.of_attestation reported
    exact good.payload
  · intro name signer kind signature before after found split first
    have own : engine.keyring.signer name = .ok signer := by rw [ring, found]
    have registered : name ∈ engine.names ↔ (Change.latest? history name).isSome :=
      mem_names_build ..
    rw [← registered, ← SignedAttestation.ofKind_vouches name]
    constructor
    · intro given
      obtain ⟨result, member, rfl, reported⟩ := given
      obtain ⟨listed, same⟩ := mem_attestedResults.mp member
      have verdict := attestedResult_verdict engine image later list result.name
      rw [same] at verdict
      obtain ⟨other, beside, good⟩ := verdict.of_attestation reported
      cases own.symm.trans beside
      exact ⟨listed, good⟩
    · intro given
      obtain ⟨listed, good⟩ := given
      have reported := attestedResult_first own split good first
      refine ⟨_, List.mem_map_of_mem listed, ?_⟩
      rw [reported]
      exact ⟨rfl, rfl⟩

theorem bare_genuine_kind :
    let signer := Signer.ofSeed (List.replicate 32 7)
    signer.isGenuine 5
      (Text.encode (Payload.ofKind sampleImage "atomic container signature").body) = true := by
  decide +kernel

/-- What the key of a check signed as a signature of another kind is reported as the attestation of
the check. -/
theorem verify_any_kind_bare :
    let signer := Signer.ofSeed (List.replicate 32 7)
    let keyring : KeyRing := { signers := [("diy", signer)] }
    let history : List Change := [.register "diy" { decide := fun _ => .value () }]
    let payload := Payload.ofKind sampleImage "atomic container signature"
    payload.kind ≠ Payload.signatureKind ∧
      ∃ signature, signer.sign 5 (Text.encode payload.body) = .ok signature ∧
        let attestation : SignedAttestation :=
          .ofKind signer "diy" sampleImage "atomic container signature" signature
        attestation.body = payload.body ∧
          ∃ report, (build (Catalogue.service {}) keyring history).verify sampleImage 5 false
              (Store.add {} sampleImage attestation) = .value report ∧
            ∃ result ∈ report.results, result.name = "diy" ∧
              result.attestation = some attestation := by
  intro signer keyring history payload
  obtain ⟨⟨key, seed⟩, chosen⟩ := Option.isSome_iff_exists.mp bare_genuine.1
  obtain ⟨signature, signed⟩ : ∃ text, signer.sign 5 (Text.encode payload.body) = .ok text :=
    ⟨_, Signer.sign_ok_iff.mpr ⟨key, seed, chosen, by decide, rfl⟩⟩
  have good := Signer.verify_signed signed bare_genuine_kind
  rw [bare_genuine.2.2] at good
  refine ⟨by decide, signature, signed, ?_⟩
  intro attestation
  have held : (Store.add {} sampleImage attestation).attestations sampleImage = [attestation] := by
    rw [Store.attestations_add, if_pos rfl]
    rfl
  obtain ⟨report, verified, _, counted⟩ :=
    @verify_any_kind sampleImage 5 _ (Catalogue.service {}) keyring history _
      (congrArg Reply.value held)
  have found : keyring.signer "diy" = .ok signer := rfl
  have reported := counted "diy" signer _ _ [] [] found rfl nofun
  exact ⟨rfl, report, verified, reported.mpr ⟨rfl, good⟩⟩

end Engine

end Attestor
