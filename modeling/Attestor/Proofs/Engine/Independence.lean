import Attestor.Proofs.Engine.Quiet
import Attestor.Proofs.Policy.Evidence

namespace Attestor

open Results

def SignedAttestation.withoutSignature (attestation : SignedAttestation) : SignedAttestation :=
  { attestation with signature := "" }

def CheckResult.withoutSignature (result : CheckResult) : CheckResult :=
  { result with attestation := result.attestation.map SignedAttestation.withoutSignature }

namespace MetadataService

variable {image : ImageReference}

/-- The record that a service answers to an attestation, up to the signature. -/
def recorded (service : MetadataService) (image : ImageReference) (attestation : SignedAttestation)
    (store : Store) : Reply MetadataError SignedAttestation := do
  let (record, _) ← service.submit image attestation store
  return record.withoutSignature

/-- Two services take attestations of an image alike, whatever is stored already. A service that is
alike to itself answers repeated calls alike. -/
structure Alike (image : ImageReference) (first second : MetadataService) : Prop where
  canAttest : first.canAttest = second.canAttest
  payloadBody : first.payloadBody image = second.payloadBody image
  recorded : ∀ attestation other before after,
    attestation.withoutSignature = other.withoutSignature →
      first.recorded image attestation before = second.recorded image other after

end MetadataService

theorem Catalogue.service_alike (first second : Catalogue) (image : ImageReference) :
    first.service.Alike image second.service where
  canAttest := rfl
  payloadBody := rfl
  recorded := fun _ _ _ _ same => congrArg Reply.value same

theorem Assignment.submitted_withoutSignature (assignment : Assignment) (name : String)
    (attestation : SignedAttestation) (store : Store) :
    (assignment.submitted name attestation store).1.result?.map CheckResult.withoutSignature =
      match assignment.engine.metadata.recorded assignment.image attestation store with
      | .value record => some (.attestedBy name record)
      | .failure error => some (.ofAttestError name (.metadata error))
      | .never => none := by
  unfold submitted MetadataService.recorded
  cases assignment.engine.metadata.submit assignment.image attestation store <;> rfl

/-- Two engines, each at its time, have the same check, signer and service for an image under a name.
The evidence for other images and all that stands under other names may differ. -/
structure Engine.AgreesOn (name : String) (image : ImageReference) (now later : Nat)
    (first second : Engine) : Prop where
  decides : (first.checks.lookup name).map (·.check.decide image) =
    (second.checks.lookup name).map (·.check.decide image)
  attest : (first.checks.lookup name).map (·.attest) = (second.checks.lookup name).map (·.attest)
  dryRun : first.dryRun = second.dryRun
  signer : first.keyring.signer name = second.keyring.signer name
  signs : ∀ signer body, first.keyring.signer name = .ok signer →
    (signer.sign now body).map (fun _ => ()) = (signer.sign later body).map (fun _ => ())
  metadata : first.metadata.Alike image second.metadata

theorem Engine.AgreesOn.refl {engine : Engine} {image : ImageReference} (name : String) (now : Nat)
    (alike : engine.metadata.Alike image engine.metadata) :
    engine.AgreesOn name image now now engine where
  decides := rfl
  attest := rfl
  dryRun := rfl
  signer := rfl
  signs := fun _ _ _ => rfl
  metadata := alike

namespace Engine.AgreesOn

variable {name : String} {image : ImageReference} {now later : Nat} {first second : Engine}

theorem sign_alike (agrees : first.AgreesOn name image now later second) :
    (Assignment.sign { engine := first, image, now } name).map
        SignedAttestation.withoutSignature =
      (Assignment.sign { engine := second, image, now := later } name).map
        SignedAttestation.withoutSignature := by
  have sameBody := agrees.metadata.payloadBody
  have sameSigner := agrees.signer
  cases given : first.metadata.payloadBody image with
  | error error =>
    rw [Assignment.sign_of_error given, Assignment.sign_of_error (sameBody.symm.trans given)]
  | ok body =>
    rw [Assignment.sign_of_body given, Assignment.sign_of_body (sameBody.symm.trans given)]
    cases found : first.keyring.signer name with
    | error error =>
      rw [KeyRing.attest_of_error found, KeyRing.attest_of_error (sameSigner.symm.trans found)]
    | ok signer =>
      rw [KeyRing.attest_of_signer found, KeyRing.attest_of_signer (sameSigner.symm.trans found)]
      have signs := agrees.signs signer (Text.encode body) found
      simp only
      generalize signer.sign now (Text.encode body) = atOne at signs ⊢
      generalize signer.sign later (Text.encode body) = atOther at signs ⊢
      cases atOne with
      | error error =>
        cases atOther with
        | error other =>
          cases signs
          rfl
        | ok => cases signs
      | ok signature =>
        cases atOther with
        | error other => cases signs
        | ok other => rfl

theorem alone_alike (agrees : first.AgreesOn name image now later second)
    {registration other : Registration} (found : first.checks.lookup name = some registration)
    (found' : second.checks.lookup name = some other) (before after : Store) :
    (Assignment.alone? { engine := first, image, now } name registration before).map
        CheckResult.withoutSignature =
      (Assignment.alone? { engine := second, image, now := later } name other after).map
        CheckResult.withoutSignature := by
  let one : Assignment := { engine := first, image, now }
  let two : Assignment := { engine := second, image, now := later }
  have decides : registration.check.decide image = other.check.decide image := by
    simpa [found, found'] using agrees.decides
  have attest : registration.attest = other.attest := by
    simpa [found, found'] using agrees.attest
  have attests : two.attests other = one.attests registration := by
    simp only [Assignment.attests, one, two, attest, agrees.dryRun, agrees.metadata.canAttest]
  cases decided : registration.check.decide image with
  | never =>
    rw [Assignment.alone_never before decided, Assignment.alone_never after (decides ▸ decided)]
  | failure error =>
    rw [Assignment.alone_failed before decided, Assignment.alone_failed after (decides ▸ decided)]
  | value =>
    have decided' : other.check.decide image = .value () := decides ▸ decided
    cases asked : one.attests registration with
    | false =>
      rw [Assignment.alone_unasked before decided asked,
        Assignment.alone_unasked after decided' (attests.trans asked)]
    | true =>
      have asked' := attests.trans asked
      have same := agrees.sign_alike
      cases signed : one.sign name with
      | error error =>
        rw [signed] at same
        cases signed' : two.sign name with
        | ok attestation => rw [signed'] at same; cases same
        | error error' =>
          rw [signed'] at same
          cases same
          rw [Assignment.alone_unsigned before decided asked signed,
            Assignment.alone_unsigned after decided' asked' signed']
      | ok attestation =>
        rw [signed] at same
        cases signed' : two.sign name with
        | error error => rw [signed'] at same; cases same
        | ok attestation' =>
          rw [signed'] at same
          have answers := agrees.metadata.recorded attestation attestation' before after
            (Except.ok.inj same)
          rw [Assignment.alone_signed before decided asked signed,
            Assignment.alone_signed after decided' asked' signed',
            Assignment.submitted_withoutSignature, Assignment.submitted_withoutSignature, answers]

end Engine.AgreesOn

namespace Engine

variable {engine other : Engine} {request otherRequest : Request} {course otherCourse : Course}
  {image : ImageReference} {now later : Nat} {store otherStore : Store}
  {results otherResults : List CheckResult}

theorem Gives.alike {name : String} (ordered : engine.names.Pairwise (· < ·))
    (otherOrdered : other.names.Pairwise (· < ·))
    (agrees : engine.AgreesOn name image now later other)
    (gives : engine.Gives request course image now store results)
    (otherGives : other.Gives otherRequest otherCourse image later otherStore otherResults)
    {result otherResult : CheckResult} (member : result ∈ results) (named : result.name = name)
    (otherMember : otherResult ∈ otherResults) (otherNamed : otherResult.name = name) :
    result.withoutSignature = otherResult.withoutSignature := by
  obtain ⟨registration, found, ⟨before, comes⟩, _⟩ := gives.mem ordered member
  obtain ⟨another, found', ⟨after, comes'⟩, _⟩ := otherGives.mem otherOrdered otherMember
  subst named
  rw [otherNamed] at found' comes'
  have same := agrees.alone_alike found found' before after
  rw [comes, comes'] at same
  exact Option.some.inj same

/-- Each of some checks gives its part in a run of its own. -/
def GiveEach (engine : Engine) (names : List String) (image : ImageReference) (now : Nat)
    (stores : String → Store) (parts : List (List CheckResult)) : Prop :=
  List.Forall₂ (fun name part =>
    engine.Gives (.named [name]) Run.onOneThread image now (stores name) part) names parts

section

variable {stores : String → Store} {parts : List (List CheckResult)}
  (ordered : engine.names.Pairwise (· < ·)) (alike : engine.metadata.Alike image engine.metadata)

include ordered alike

theorem Gives.flatten (gives : engine.Gives request course image now store results)
    (single : engine.GiveEach (engine.requested request) image now stores parts) :
    results.map CheckResult.withoutSignature = parts.flatten.map CheckResult.withoutSignature := by
  rw [GiveEach, ← gives.names ordered, List.forall₂_map_left_iff] at single
  have each : List.Forall₂ (fun result part =>
      part.map CheckResult.withoutSignature = [CheckResult.withoutSignature result])
      results parts := by
    have listed : ∀ result ∈ results, result ∈ results := fun _ member => member
    refine List.Forall₂.imp ?_ ((List.forall₂_and_left _ _).mpr ⟨listed, single⟩)
    intro result part given
    obtain ⟨member, alone⟩ := given
    have names := alone.names ordered
    rw [requested_named_singleton] at names
    obtain ⟨one, rfl, named⟩ := List.map_eq_singleton_iff.mp names
    have same := Gives.alike ordered ordered (.refl result.name now alike) alone gives
      (List.mem_singleton_self one) named member rfl
    rw [List.map_singleton, same]
  clear gives single
  induction each with
  | nil => rfl
  | cons first _ ih =>
    rw [List.flatten_cons, List.map_append, first, ← ih, List.map_cons, List.singleton_append]

theorem Gives.endsAlone (gives : engine.Gives request course image now store results) {name : String}
    (asked : name ∈ engine.requested request) :
    ∃ registration, engine.checks.lookup name = some registration ∧
      Assignment.EndsAlone { engine, image, now } name registration := by
  rw [← gives.names ordered] at asked
  obtain ⟨result, member, rfl⟩ := List.mem_map.mp asked
  obtain ⟨registration, found, ⟨before, comes⟩, leaves⟩ := gives.mem ordered member
  refine ⟨registration, found, leaves, fun after => ?_⟩
  have same := (AgreesOn.refl result.name now alike).alone_alike found found before after
  rw [comes] at same
  have some := congrArg Option.isSome same
  rw [Option.isSome_map, Option.isSome_map] at some
  exact some.symm

theorem Gives.each (gives : engine.Gives request course image now store results)
    (stores : String → Store) :
    ∃ parts, engine.GiveEach (engine.requested request) image now stores parts := by
  have single : ∀ name ∈ engine.requested request, ∃ part,
      engine.Gives (.named [name]) Run.onOneThread image now (stores name) part := by
    intro name asked
    refine gives_results (stores name) ordered (Run.onOneThread_givesTurns _)
      (Run.onOneThread_uncancelled _) ?_
    intro other member
    rw [requested_named_singleton, List.mem_singleton] at member
    rw [member]
    exact gives.endsAlone ordered alike asked
  choose! part alone using single
  exact ⟨_, List.forall₂_map_right_iff.mpr (List.forall₂_same.mpr alone)⟩

theorem gives_of_each (store : Store)
    (single : engine.GiveEach (engine.requested request) image now stores parts)
    (turns : Run.GivesTurns (engine.requested request) (course (engine.requested request)))
    (uncancelled : .cancel ∉ course (engine.requested request)) :
    ∃ results, engine.Gives request course image now store results := by
  refine gives_results store ordered turns uncancelled ?_
  intro name asked
  obtain ⟨part, _, alone⟩ := exists_right_of_mem single asked
  refine alone.endsAlone ordered alike ?_
  rw [requested_named_singleton]
  exact List.mem_singleton_self name

end

/-- Checks are independent of each other. Without cancellation a check has the same result, up to the
bytes of the signature, in any two runs of engines that agree on it, whatever else is made beside it
and whatever the services hold for other images. So what a request gives is what its checks give one
by one, and it gives that whenever they do. -/
theorem answer_independent (service : MetadataService) (keyring : KeyRing) (history : List Change)
    (image : ImageReference) (now : Nat) :
    let engine := build service keyring history
    (∀ otherService otherKeyring otherHistory later name,
      let other := build otherService otherKeyring otherHistory
      engine.AgreesOn name image now later other →
      ∀ request otherRequest course otherCourse store otherStore results otherResults,
        engine.Gives request course image now store results →
        other.Gives otherRequest otherCourse image later otherStore otherResults →
        results.map (·.name) = engine.requested request ∧
        otherResults.map (·.name) = other.requested otherRequest ∧
        ∀ result ∈ results, result.name = name →
          ∀ otherResult ∈ otherResults, otherResult.name = name →
            result.withoutSignature = otherResult.withoutSignature) ∧
    (service.Alike image service →
      (∀ name, engine.AgreesOn name image now now engine) ∧
      ∀ request (stores : String → Store),
        (∀ course store results, engine.Gives request course image now store results →
          ∃ parts, engine.GiveEach (engine.requested request) image now stores parts ∧
            results.map CheckResult.withoutSignature =
              parts.flatten.map CheckResult.withoutSignature) ∧
        ∀ course store parts, engine.GiveEach (engine.requested request) image now stores parts →
          Run.GivesTurns (engine.requested request) (course (engine.requested request)) →
          .cancel ∉ course (engine.requested request) →
          ∃ results, engine.Gives request course image now store results ∧
            results.map CheckResult.withoutSignature =
              parts.flatten.map CheckResult.withoutSignature) ∧
    (∀ first second : Services, first.SameEvidence image second → ∀ settings checkName,
      (Check.ofName checkName settings first).map (·.decide image) =
        (Check.ofName checkName settings second).map (·.decide image)) ∧
    ∀ first second : Catalogue, first.service.Alike image second.service ∧
      (first.evidence? image = second.evidence? image → ∀ repository,
        Services.SameEvidence image { metadata := first.service, repository }
          { metadata := second.service, repository }) := by
  intro engine
  have ordered : engine.names.Pairwise (· < ·) := build_ordered service keyring history
  refine ⟨?_, ?_, ?_, ?_⟩
  · intro otherService otherKeyring otherHistory later name other agrees request otherRequest course
      otherCourse store otherStore results otherResults gives otherGives
    have otherOrdered : other.names.Pairwise (· < ·) :=
      build_ordered otherService otherKeyring otherHistory
    refine ⟨gives.names ordered, otherGives.names otherOrdered, ?_⟩
    intro result member named otherResult otherMember otherNamed
    exact gives.alike ordered otherOrdered agrees otherGives member named otherMember otherNamed
  · intro steady
    have alike : engine.metadata.Alike image engine.metadata := by
      rw [build_metadata]
      exact steady
    refine ⟨fun name => .refl name now alike, fun request stores => ⟨?_, ?_⟩⟩
    · intro course store results gives
      obtain ⟨parts, single⟩ := gives.each ordered alike stores
      exact ⟨parts, single, gives.flatten ordered alike single⟩
    · intro course store parts single turns uncancelled
      obtain ⟨results, gives⟩ := gives_of_each ordered alike store single turns uncancelled
      exact ⟨results, gives, gives.flatten ordered alike single⟩
  · intro first second same settings checkName
    exact Check.ofName_congr same checkName settings
  · intro first second
    exact ⟨first.service_alike second image, fun same repository => .ofCatalogues repository same⟩

def crowded : Engine :=
  let another : ImageReference := { name := "gcr.io/project/other", digest := "sha256:cd" }
  build (Catalogue.service { entries := [(another, {})] })
    { signers := [("diy", .ofSeed (List.replicate 32 7))] }
    [.register "org" { decide := fun _ => .failure (.metadata (.request "connection reset")) },
      .register "diy" { decide := fun _ => .value () },
      .register "snakeoil" { decide := fun _ => .value () },
      .registerWithoutAttestation "provenance"
        { decide := fun _ => .failure (.rejected .noBuildDetail) }]

theorem answer_independent_crowded :
    let image : ImageReference := { name := "gcr.io/project/app", digest := "sha256:ab" }
    ∃ results otherResults,
      bare.Gives (.named ["diy"]) Run.onOneThread image 5 {} results ∧
      crowded.Gives .all Run.onOneThread image 5 {} otherResults ∧
      (∃ result ∈ results, result.name = "diy" ∧ ∃ otherResult ∈ otherResults,
        otherResult.name = "diy" ∧ result.withoutSignature = otherResult.withoutSignature) ∧
      ∃ parts, crowded.GiveEach crowded.names image 5 (fun _ => {}) parts ∧
        otherResults.map CheckResult.withoutSignature =
          parts.flatten.map CheckResult.withoutSignature := by
  intro image
  obtain ⟨results, gives⟩ : ∃ results,
      bare.Gives (.named ["diy"]) Run.onOneThread image 5 {} results := by
    refine gives_recorded {} ?_ (by simp [Change.Decides])
    intro name asked
    rw [requested_named_singleton, List.mem_singleton] at asked
    rw [asked]
    exact List.mem_singleton_self _
  obtain ⟨otherResults, otherGives⟩ : ∃ results,
      crowded.Gives .all Run.onOneThread image 5 {} results :=
    gives_recorded {} (fun _ asked => asked) (by simp [Change.Decides])
  have agrees : bare.AgreesOn "diy" image 5 5 crowded := {
    decides := by rfl
    attest := by rfl
    dryRun := rfl
    signer := rfl
    signs := fun _ _ _ => rfl
    metadata := Catalogue.service_alike _ _ image }
  obtain ⟨names, otherNames, same⟩ := (answer_independent _ _ _ image 5).1 _ _ _ _ _ agrees _ _ _ _ _ _
    _ _ gives otherGives
  obtain ⟨result, member, named⟩ : ∃ result ∈ results, result.name = "diy" := by
    rw [← List.mem_map, names, requested_named_singleton]
    exact List.mem_singleton_self _
  obtain ⟨otherResult, otherMember, otherNamed⟩ : ∃ result ∈ otherResults, result.name = "diy" := by
    rw [← List.mem_map, otherNames]
    decide +kernel
  obtain ⟨parts, single, flat⟩ :=
    (((answer_independent _ _ _ image 5).2.1 (Catalogue.service_alike _ _ image)).2 .all
      (fun _ => {})).1 _ _ _ otherGives
  exact ⟨results, otherResults, gives, otherGives, ⟨result, member, named, otherResult, otherMember,
    otherNamed, same result member named otherResult otherMember otherNamed⟩, parts, single, flat⟩

end Engine

end Attestor
