import Attestor.Proofs.CommandLine.Preparation
import Attestor.Proofs.Engine.Construction
import Attestor.Proofs.KeyRing

namespace Attestor

open OpenPgp

/-- What makes an attestation count for a check and an image. -/
structure SignedAttestation.Vouches (attestation : SignedAttestation) (signer : Signer)
    (name : String) (image : ImageReference) (now : Nat) : Prop where
  check : attestation.checkName = name
  canonical : attestation.image = image.canonical
  key : attestation.keyId = signer.keyId
  statement : ∃ payload, Payload.ofBody? attestation.body = some payload ∧
    payload.dockerReference = image.name ∧ payload.manifestDigest = image.digest
  signature : Detached.verify signer.publicCertificate now (Text.encode attestation.body)
    (Text.encode attestation.signature) = true

namespace SignedAttestation

variable {attestation : SignedAttestation} {signer : Signer} {name : String} {image : ImageReference}
  {now : Nat}

theorem vouches_iff :
    attestation.vouches signer name image now = true ↔
      attestation.Vouches signer name image now := by
  simp only [vouches, Bool.and_eq_true, beq_iff_eq, Option.any_eq_true, Payload.refersTo]
  constructor
  · intro given
    obtain ⟨⟨⟨⟨check, canonical⟩, key⟩, statement⟩, signature⟩ := given
    exact ⟨check, canonical, key, statement, signature⟩
  · intro given
    obtain ⟨check, canonical, key, statement, signature⟩ := given
    exact ⟨⟨⟨⟨check, canonical⟩, key⟩, statement⟩, signature⟩

end SignedAttestation

namespace Engine

variable {image : ImageReference} {now : Nat} {list : List SignedAttestation}

inductive Verdict (keyring : KeyRing) (image : ImageReference) (now : Nat)
    (list : List SignedAttestation) (name : String) : CheckResult → Prop where
  | unsigned (error : KeyRingError) (missing : keyring.signer name = .error error) :
      Verdict keyring image now list name (.failed name .unattested error.message)
  | unattested (signer : Signer) (found : keyring.signer name = .ok signer)
      (none : ∀ attestation ∈ list, ¬ attestation.Vouches signer name image now) :
      Verdict keyring image now list name
        (.failed name .unattested ("no valid attestation for check " ++ name))
  | attested (signer : Signer) (attestation : SignedAttestation)
      (before after : List SignedAttestation) (found : keyring.signer name = .ok signer)
      (split : list = before ++ attestation :: after)
      (good : attestation.Vouches signer name image now)
      (first : ∀ earlier ∈ before, ¬ earlier.Vouches signer name image now) :
      Verdict keyring image now list name (.attestedBy name attestation)

theorem attestedResult_verdict (engine : Engine) (image : ImageReference) (now : Nat)
    (list : List SignedAttestation) (name : String) :
    Verdict engine.keyring image now list name
      (engine.attestedResult image now list name) := by
  cases found : engine.keyring.signer name with
  | error error =>
    simp only [attestedResult, found]
    exact .unsigned error found
  | ok signer =>
    cases search : list.find? (·.vouches signer name image now) with
    | none =>
      simp only [attestedResult, found, search]
      refine .unattested signer found ?_
      intro attestation member good
      exact List.find?_eq_none.mp search attestation member (SignedAttestation.vouches_iff.mpr good)
    | some attestation =>
      simp only [attestedResult, found, search]
      obtain ⟨good, before, after, split, first⟩ := List.find?_eq_some_iff_append.mp search
      refine .attested signer attestation before after found split
        (SignedAttestation.vouches_iff.mp good) ?_
      intro earlier member good
      have bad := first earlier member
      rw [SignedAttestation.vouches_iff.mpr good] at bad
      cases bad

namespace Verdict

variable {keyring : KeyRing} {name : String} {result : CheckResult}

theorem name_eq (verdict : Verdict keyring image now list name result) : result.name = name := by
  cases verdict <;> rfl

theorem success_iff (verdict : Verdict keyring image now list name result) :
    result.success = true ↔ ∃ signer, keyring.signer name = .ok signer ∧
      ∃ attestation ∈ list, attestation.Vouches signer name image now := by
  cases verdict with
  | unsigned error missing => simp [CheckResult.failed, missing]
  | unattested signer found none => simpa [CheckResult.failed, found] using none
  | attested signer attestation before after found split good =>
    subst split
    simp only [CheckResult.attestedBy, true_iff]
    exact ⟨signer, found, attestation, by simp, good⟩

theorem of_success (verdict : Verdict keyring image now list name result)
    (success : result.success = true) :
    ∃ signer attestation before after, keyring.signer name = .ok signer ∧
      list = before ++ attestation :: after ∧ attestation.Vouches signer name image now ∧
      (∀ earlier ∈ before, ¬ earlier.Vouches signer name image now) ∧
      result = .attestedBy name attestation := by
  cases verdict with
  | unsigned => cases success
  | unattested => cases success
  | attested signer attestation before after found split good first =>
    exact ⟨signer, attestation, before, after, found, split, good, first, rfl⟩

theorem of_failure (verdict : Verdict keyring image now list name result)
    (failure : result.success = false) :
    result.failure = some .unattested ∧ result.attested = false ∧ result.attestation = none := by
  cases verdict with
  | unsigned => exact ⟨rfl, rfl, rfl⟩
  | unattested => exact ⟨rfl, rfl, rfl⟩
  | attested => cases failure

end Verdict

theorem attestedResult_vouched {engine : Engine} {name : String} {signer : Signer}
    {attestation : SignedAttestation} (found : engine.keyring.signer name = .ok signer)
    (member : attestation ∈ list) (good : attestation.Vouches signer name image now) :
    ∃ first, engine.attestedResult image now list name = .attestedBy name first := by
  have verdict := attestedResult_verdict engine image now list name
  have success := verdict.success_iff.mpr ⟨signer, found, attestation, member, good⟩
  obtain ⟨_, first, _, _, _, _, _, _, result⟩ := verdict.of_success success
  exact ⟨first, result⟩

theorem verify_value {engine : Engine} {store : Store}
    (held : engine.metadata.attestations image store = .value list) :
    engine.verify image now false store =
      .value (engine.report image (engine.names.map (engine.attestedResult image now list))) := by
  simp only [verify, held, Bool.false_eq_true, ↓reduceIte]
  rfl

theorem attestedResult_congr {engine other : Engine} (same : other.keyring = engine.keyring) :
    other.attestedResult image now list = engine.attestedResult image now list := by
  funext name
  simp only [attestedResult, same]

/-- Verification gives one result for each registered check, in order of the names, and it is a
success if and only if some attestation counts; then the first one that counts is reported. What the
checks do, whether they are attested and whether anything is signed makes no difference, and nothing
is written. -/
theorem verify_spec {service : MetadataService} {keyring : KeyRing} {history : List Change}
    {store : Store} (held : service.attestations image store = .value list) :
    ∃ report, (build service keyring history).verify image now false store = .value report ∧
      (report.results.map (·.name)).Pairwise (· < ·) ∧
      (∀ name, name ∈ report.results.map (·.name) ↔ (Change.latest? history name).isSome) ∧
      (∀ result ∈ report.results,
        (result.success = true ↔ ∃ signer, keyring.signer result.name = .ok signer ∧
          ∃ attestation ∈ list, attestation.Vouches signer result.name image now) ∧
        (result.success = true → ∃ signer attestation before after,
          keyring.signer result.name = .ok signer ∧ list = before ++ attestation :: after ∧
          attestation.Vouches signer result.name image now ∧
          (∀ earlier ∈ before, ¬ earlier.Vouches signer result.name image now) ∧
          result = .attestedBy result.name attestation) ∧
        (result.success = false →
          result.failure = some .unattested ∧ result.attested = false ∧
            result.attestation = none)) ∧
      (∀ other : Engine, other.metadata.attestations image store = .value list →
        other.keyring = keyring → other.names = (build service keyring history).names →
        other.required = (build service keyring history).required →
        other.verify image now false store = .value report) ∧
      ∀ (course : Course) (settings : Settings) (text : String) (files : Files),
        ImageReference.parse text = .ok image →
        CommandLine.Session.operate course Files.access settings (build service keyring history)
          store now (.verify text) files = (.ok report, files) := by
  let engine := build service keyring history
  have verified : engine.verify image now false store = _ :=
    verify_value (by rw [build_metadata]; exact held)
  have ring : engine.keyring = keyring := build_keyring ..
  have names : (engine.names.map (engine.attestedResult image now list)).map (·.name) =
      engine.names := by
    rw [List.map_map]
    refine (List.map_congr_left fun name _ => ?_).trans (List.map_id _)
    exact (attestedResult_verdict engine image now list name).name_eq
  refine ⟨_, verified, ?_, ?_, ?_, ?_, ?_⟩
  · simp only [report, names]
    exact build_ordered ..
  · intro name
    simp only [report, names]
    exact mem_names_build ..
  · intro result member
    obtain ⟨name, _, rfl⟩ := List.mem_map.mp member
    have verdict := attestedResult_verdict engine image now list name
    rw [ring] at verdict
    rw [verdict.name_eq]
    exact ⟨verdict.success_iff, verdict.of_success, verdict.of_failure⟩
  · intro other same otherRing otherNames otherRequired
    rw [verify_value same, otherNames, attestedResult_congr (otherRing.trans ring.symm)]
    simp only [report, otherRequired, engine]
  · intro course settings text files parsed
    exact CommandLine.Session.operate_verify parsed verified

/-- An attestation by nobody's key does not count, whatever else it says. -/
theorem verify_spec_forged :
    let image : ImageReference := { name := "gcr.io/project/app", digest := "sha256:ab" }
    let forged : SignedAttestation :=
      { checkName := "diy", image := image.canonical, body := (Payload.ofImage image).body
        signature := "", keyId := "0x1" }
    let store := Store.add {} image forged
    let keyring : KeyRing := { signers := [("diy", .ofSeed (List.replicate 32 7))] }
    let service := Catalogue.service {}
    service.attestations image store = .value [forged] ∧
      ∃ report, (build service keyring [.register "diy" { decide := fun _ => .value () }]).verify
        image 5 false store = .value report ∧
        ∀ result ∈ report.results, result.success = false ∧ result.failure = some .unattested := by
  intro image forged store keyring service
  have held : service.attestations image store = .value [forged] := by decide +kernel
  refine ⟨held, ?_⟩
  let history : List Change := [.register "diy" { decide := fun _ => .value () }]
  obtain ⟨report, verified, _, registered, results, _⟩ :=
    @verify_spec image 5 [forged] service keyring history store held
  have foreign : (Signer.ofSeed (List.replicate 32 7)).keyId ≠ "0x1" := by decide +kernel
  refine ⟨report, verified, ?_⟩
  intro result member
  obtain ⟨counts, _, failure⟩ := results result member
  have refused : result.success = false := by
    refine Bool.eq_false_iff.mpr fun success => ?_
    obtain ⟨signer, found, attestation, only, good⟩ := counts.mp success
    obtain rfl := List.mem_singleton.mp only
    have entry := Associations.mem_of_lookup (KeyRing.signer_ok_iff.mp found)
    obtain ⟨-, rfl⟩ := Prod.mk.inj (List.mem_singleton.mp entry)
    exact foreign good.key.symm
  exact ⟨refused, (failure refused).1⟩

end Engine

end Attestor
