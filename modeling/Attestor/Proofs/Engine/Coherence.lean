import Attestor.Proofs.Engine.Durability
import Attestor.Proofs.Engine.Request

namespace Attestor

/-- The combinations of fields that a run can report. -/
structure CheckResult.Coherent (result : CheckResult) : Prop where
  error : result.success = true ↔ result.error = none
  failure : result.success = true ↔ result.failure = none
  attested : result.attested = true ↔ result.attestation.isSome = true
  passed : result.attested = true ∨ result.attestationError.isSome = true → result.success = true
  apart : ¬ (result.attested = true ∧ result.attestationError.isSome = true)

structure CheckResult.Confirms (result : CheckResult) : Prop where
  attested : result.success = true ↔ result.attested = true
  attestation : result.success = true ↔ result.attestation.isSome = true
  unasked : result.attestationError = none
  failure : result.failure = if result.success then none else some .unattested
  error : result.error.isSome = !result.success

theorem CheckResult.Confirms.coherent {result : CheckResult} (confirms : result.Confirms) :
    result.Coherent := by
  obtain ⟨attested, attestation, unasked, failure, error⟩ := confirms
  have unsigned : result.attestationError.isSome ≠ true := by
    rw [unasked]
    exact Bool.false_ne_true
  refine ⟨?_, ?_, attested.symm.trans attestation, ?_, fun both => unsigned both.2⟩
  · rw [← Option.not_isSome_iff_eq_none, error, Bool.not_eq_true', Bool.not_eq_false]
  · rw [failure]
    cases result.success with
    | false => exact iff_of_false Bool.false_ne_true (Option.some_ne_none _)
    | true => exact iff_of_true rfl rfl
  · intro given
    exact attested.mpr (given.resolve_right unsigned)

structure SignedAttestation.MadeBy (attestation : SignedAttestation) (engine : Engine) (name : String)
    (image : ImageReference) : Prop where
  check : attestation.checkName = name
  canonical : attestation.image = image.canonical
  key : ∃ signer, engine.keyring.signer name = .ok signer ∧ attestation.keyId = signer.keyId
  body : engine.metadata.payloadBody image = .ok attestation.body

theorem Assignment.sign_madeBy {assignment : Assignment} {name : String}
    {attestation : SignedAttestation} (signed : assignment.sign name = .ok attestation) :
    attestation.MadeBy assignment.engine name assignment.image := by
  obtain ⟨signer, found, body, _, check, canonical, key⟩ := Assignment.sign_spec signed
  exact ⟨check, canonical, ⟨signer, found, key⟩, body⟩

namespace MetadataService

/-- A service that answers an attestation as it was given. -/
def Returns (service : MetadataService) : Prop :=
  ∀ image given before record after, service.submit image given before = .value (record, after) →
    record = given

end MetadataService

theorem Catalogue.service_returns (catalogue : Catalogue) : catalogue.service.Returns := by
  intro image given before record after answer
  cases answer
  rfl

section

variable {assignment : Assignment} {name : String} {registration : Registration}
  {result : CheckResult}

theorem Ending.coherent (ending : Ending assignment name registration result) : result.Coherent := by
  cases ending with
  | stopped | failed =>
    constructor <;> simp [CheckResult.ofCheckError, CheckResult.failed]
  | unasked => constructor <;> simp [CheckResult.passed]
  | unsigned | withdrawn | refused =>
    constructor <;> simp [CheckResult.ofAttestError, CheckResult.unsigned]
  | stored => constructor <;> simp [CheckResult.attestedBy]

theorem Engine.Verdict.confirms {keyring : KeyRing} {image : ImageReference} {now : Nat}
    {list : List SignedAttestation} (verdict : Verdict keyring image now list name result) :
    result.Confirms := by
  cases verdict with
  | unsigned | unattested => constructor <;> simp [CheckResult.failed]
  | attested => constructor <;> simp [CheckResult.attestedBy]

end

namespace Engine

variable {engine : Engine} {image : ImageReference} {now : Nat} {cancelled : Bool} {store : Store}

/-- Every result that answers a request is an ending of a check under its name. -/
theorem answer_ending {request : Request} {course : Course} {outcome : RunOutcome}
    (answered : engine.answer request course image now cancelled store = .ok (some outcome)) :
    outcome.report.image = image.canonical ∧
      ∀ result ∈ outcome.report.results, ∃ registration,
        Ending { engine, image, now } result.name registration result := by
  rw [answer_eq] at answered
  cases chosen : engine.selection request with
  | error error =>
    rw [chosen] at answered
    cases answered
  | ok selected =>
    rw [chosen] at answered
    have ran := Except.ok.inj answered
    obtain ⟨_, _, _, whole⟩ := runBy_last ran
    refine ⟨by rw [whole]; rfl, ?_⟩
    intro result member
    obtain ⟨registration, _, ending⟩ := endings_mem (runBy_endings ran) member
    exact ⟨registration, ending⟩

theorem verify_value_iff {report : Report} :
    engine.verify image now cancelled store = .value report ↔ cancelled = false ∧
      ∃ list, engine.metadata.attestations image store = .value list ∧
        report = engine.report image (engine.names.map (engine.attestedResult image now list)) := by
  constructor
  · intro verified
    cases cancelled with
    | true => cases verified
    | false =>
      cases held : engine.metadata.attestations image store with
      | value list =>
        rw [verify_value held] at verified
        cases verified
        exact ⟨rfl, list, rfl, rfl⟩
      | failure error =>
        simp only [verify, held] at verified
        cases verified
      | never =>
        simp only [verify, held] at verified
        cases verified
  · intro given
    obtain ⟨rfl, list, held, rfl⟩ := given
    exact verify_value held

/-- The fields of every reported result go together. An attestation in a result of a run is what the
service answered to an attestation of the image by the check, and it is that attestation itself if the
service answers what it was given, as the service of recorded evidence does. -/
theorem results_coherent (engine : Engine) (image : ImageReference) :
    (∀ (request : Request) (course : Course) (now : Nat) (cancelled : Bool) (store : Store)
        (outcome : RunOutcome),
      engine.answer request course image now cancelled store = .ok (some outcome) →
        outcome.report.image = image.canonical ∧
        ∀ result ∈ outcome.report.results, result.Coherent ∧
          ∀ attestation, result.attestation = some attestation →
            (∃ signed before after, signed.MadeBy engine result.name image ∧
              engine.metadata.submit image signed before = .value (attestation, after)) ∧
            (engine.metadata.Returns → attestation.image = outcome.report.image ∧
              attestation.MadeBy engine result.name image)) ∧
    (∀ (now : Nat) (cancelled : Bool) (store : Store) (report : Report),
      engine.verify image now cancelled store = .value report →
        ∀ result ∈ report.results, result.Coherent ∧ result.Confirms) ∧
    ∀ catalogue : Catalogue, engine.metadata = catalogue.service →
      engine.metadata.Returns ∧
        engine.metadata.payloadBody image = .ok (Payload.ofImage image).body := by
  refine ⟨?_, ?_, ?_⟩
  · intro request course now cancelled store outcome answered
    obtain ⟨about, endings⟩ := answer_ending answered
    refine ⟨about, fun result member => ?_⟩
    obtain ⟨registration, ending⟩ := endings result member
    refine ⟨ending.coherent, fun attestation present => ?_⟩
    obtain ⟨_, _, _, signed, before, after, made, answer⟩ := ending.of_attestation present
    have states := Assignment.sign_madeBy made
    refine ⟨⟨signed, before, after, states, answer⟩, fun returns => ?_⟩
    obtain rfl := returns _ _ _ _ _ answer
    exact ⟨states.canonical.trans about.symm, states⟩
  · intro now cancelled store report verified result member
    obtain ⟨_, list, _, rfl⟩ := verify_value_iff.mp verified
    obtain ⟨name, _, rfl⟩ := List.mem_map.mp member
    have confirms := (attestedResult_verdict engine image now list name).confirms
    exact ⟨confirms.coherent, confirms⟩
  · intro catalogue recorded
    rw [recorded]
    exact ⟨catalogue.service_returns, rfl⟩

theorem exists_attested {answer : Except Error (Option RunOutcome)}
    (Holds : Report → CheckResult → SignedAttestation → Prop)
    [∀ report result attestation, Decidable (Holds report result attestation)]
    (found : answer.toOption.any (·.any fun outcome =>
      decide (outcome.report.results.any fun result => result.attestation.any fun attestation =>
        decide (Holds outcome.report result attestation))) = true) :
    ∃ outcome, answer = .ok (some outcome) ∧ ∃ result ∈ outcome.report.results, ∃ attestation,
      result.attestation = some attestation ∧ Holds outcome.report result attestation := by
  obtain ⟨outcome, answered, made⟩ := exists_answer _ found
  obtain ⟨result, member, given⟩ := List.any_eq_true.mp made
  obtain ⟨attestation, present, holds⟩ := (Option.any_eq_true _ _).mp given
  exact ⟨outcome, answered, result, member, attestation, present, of_decide_eq_true holds⟩

/-- The bare engine attests an image, and afterwards its attestation is confirmed. -/
theorem results_coherent_bare :
    ∃ outcome, bare.answer .all Run.onOneThread sampleImage 5 false {} = .ok (some outcome) ∧
      ∃ result ∈ outcome.report.results, result.Coherent ∧
        ∃ attestation, result.attestation = some attestation ∧
          attestation.MadeBy bare "diy" sampleImage ∧
          attestation.body = (Payload.ofImage sampleImage).body ∧
          ∃ report, bare.verify sampleImage 5 false outcome.store = .value report ∧
            ∀ found ∈ report.results, found.Confirms := by
  have ended : ∃ outcome,
      bare.answer .all Run.onOneThread sampleImage 5 false {} = .ok (some outcome) ∧
      ∃ result ∈ outcome.report.results, ∃ attestation, result.attestation = some attestation ∧
        result.name = "diy" :=
    exists_attested (fun _ result _ => result.name = "diy") (by decide +kernel)
  obtain ⟨outcome, answered, result, member, attestation, present, name⟩ := ended
  have recorded : bare.metadata = (Catalogue.mk []).service := build_metadata ..
  obtain ⟨runs, verifications, services⟩ := results_coherent bare sampleImage
  obtain ⟨returns, body⟩ := services _ recorded
  obtain ⟨_, results⟩ := runs _ _ _ _ _ _ answered
  obtain ⟨coherent, attestations⟩ := results result member
  obtain ⟨_, given⟩ := attestations attestation present
  obtain ⟨_, states⟩ := given returns
  have verified : bare.verify sampleImage 5 false outcome.store = .value _ :=
    verify_value (by rw [recorded]; rfl)
  rw [name] at states
  refine ⟨outcome, answered, result, member, coherent, attestation, present, states, ?_, _,
    verified, ?_⟩
  · exact Except.ok.inj (states.body.symm.trans body)
  · intro found reported
    exact (verifications _ _ _ _ verified found reported).2

def relabelling : MetadataService :=
  { Catalogue.service {} with
    submit := fun _ given store =>
      .value ({ given with checkName := "org", image := "app:1" }, store) }

def fixedBody : MetadataService :=
  { Catalogue.service {} with payloadBody := fun _ => .ok "other" }

theorem fixedBody_returns : fixedBody.Returns := by
  intro image given before record after answer
  cases answer
  rfl

/-- A record that a service makes up is reported as it is, and a service that answers what it was given
may have had another body signed than the canonical one. -/
theorem reported_as_answered :
    (∃ outcome,
      { bare with metadata := relabelling }.answer .all Run.onOneThread sampleImage 5 false {} =
        .ok (some outcome) ∧
      ∃ result ∈ outcome.report.results, ∃ attestation, result.attestation = some attestation ∧
        attestation.checkName ≠ result.name ∧ attestation.image ≠ outcome.report.image) ∧
    fixedBody.Returns ∧ ∃ outcome,
      { bare with metadata := fixedBody }.answer .all Run.onOneThread sampleImage 5 false {} =
        .ok (some outcome) ∧
      ∃ result ∈ outcome.report.results, ∃ attestation, result.attestation = some attestation ∧
        attestation.body ≠ (Payload.ofImage sampleImage).body := by
  refine ⟨?_, fixedBody_returns, ?_⟩
  · exact exists_attested
      (fun report result attestation =>
        attestation.checkName ≠ result.name ∧ attestation.image ≠ report.image)
      (by decide +kernel)
  · exact exists_attested
      (fun _ _ attestation => attestation.body ≠ (Payload.ofImage sampleImage).body)
      (by decide +kernel)

end Engine

end Attestor
