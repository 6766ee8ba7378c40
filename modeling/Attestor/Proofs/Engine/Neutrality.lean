import Attestor.Proofs.Engine.Requirement
import Attestor.Proofs.Policy.Evidence
import Mathlib.Data.List.Sort

namespace Attestor

open Results

def CheckResult.withoutAttestation (result : CheckResult) : CheckResult :=
  { result with attested := false, attestationError := none, attestation := none }

def Report.withoutAttestations (report : Report) : Report :=
  { report with results := report.results.map CheckResult.withoutAttestation }

def CheckResult.decided? (name : String) : Verdict → Option CheckResult
  | .value () => some (.passed name)
  | .failure error => some (.ofCheckError name error)
  | .never => none

theorem Assignment.ComesTo.decided {assignment : Assignment} {name : String}
    {registration : Registration} {result : CheckResult}
    (comes : assignment.ComesTo name registration result) :
    some result.withoutAttestation =
      CheckResult.decided? name (registration.check.decide assignment.image) := by
  obtain ⟨store, alone⟩ := comes
  cases decided : registration.check.decide assignment.image with
  | never =>
    rw [alone_never store decided] at alone
    cases alone
  | failure error =>
    rw [alone_failed store decided] at alone
    cases alone
    rfl
  | value =>
    cases asked : assignment.attests registration with
    | false =>
      rw [alone_unasked store decided asked] at alone
      cases alone
      rfl
    | true =>
      cases signed : assignment.sign name with
      | error error =>
        rw [alone_unsigned store decided asked signed] at alone
        cases alone
        rfl
      | ok attestation =>
        rw [alone_signed store decided asked signed, submitted] at alone
        cases answer : assignment.engine.metadata.submit assignment.image attestation store with
        | never =>
          rw [answer] at alone
          cases alone
        | failure error =>
          rw [answer] at alone
          cases alone
          rfl
        | value pair =>
          rw [answer] at alone
          cases alone
          rfl

namespace Report

theorem verdict_withoutAttestation (required : List String) (results : List CheckResult) :
    verdict required (results.map CheckResult.withoutAttestation) = verdict required results := by
  unfold verdict
  rw [List.filter_map]
  have same : ((fun result : CheckResult => required.contains result.name) ∘
      CheckResult.withoutAttestation) = fun result => required.contains result.name := rfl
  rw [same]
  cases results.filter fun result => required.contains result.name with
  | nil =>
    rw [List.isEmpty_map, List.all_map]
    rfl
  | cons first rest => exact List.all_map

theorem verdict_congr {required other : List String} (same : ∀ name, name ∈ required ↔ name ∈ other)
    (results : List CheckResult) : verdict required results = verdict other results := by
  have contains : ∀ name, required.contains name = other.contains name := by
    intro name
    rw [Bool.eq_iff_iff, List.contains_iff_mem, List.contains_iff_mem]
    exact same name
  simp only [verdict, contains]

end Report

namespace Engine

variable {engine other : Engine} {image : ImageReference}

theorem report_withoutAttestations (engine : Engine) (image : ImageReference)
    (results : List CheckResult) :
    (engine.report image results).withoutAttestations =
      engine.report image (results.map CheckResult.withoutAttestation) := by
  simp only [report, Report.withoutAttestations, Report.verdict_withoutAttestation]

def decided? (engine : Engine) (image : ImageReference) (name : String) : Option CheckResult :=
  (engine.checks.lookup name).bind fun registration =>
    CheckResult.decided? name (registration.check.decide image)

theorem Gives.decided {request : Request} {course : Course} {now : Nat} {store : Store}
    {results : List CheckResult} (ordered : engine.names.Pairwise (· < ·))
    (gives : engine.Gives request course image now store results) :
    (results.map CheckResult.withoutAttestation).map some =
      (engine.requested request).map (engine.decided? image) := by
  rw [← gives.names ordered, List.map_map, List.map_map]
  refine List.map_congr_left fun result member => ?_
  obtain ⟨registration, found, comes, _⟩ := gives.mem ordered member
  have decided := comes.decided
  simp only [Function.comp_apply, decided?, found, Option.bind_some]
  exact decided

/-- Two engines make the same checks of an image under the same names, and require the same ones. Their
keys may differ, their services, and whether anything is attested. -/
structure SameChecks (image : ImageReference) (engine other : Engine) : Prop where
  decides : ∀ name, (engine.checks.lookup name).map (·.check.decide image) =
    (other.checks.lookup name).map (·.check.decide image)
  required : ∀ name, name ∈ engine.required ↔ name ∈ other.required

namespace SameChecks

variable (same : engine.SameChecks image other)

include same

theorem mem_names (name : String) : name ∈ engine.names ↔ name ∈ other.names := by
  have decides := congrArg Option.isSome (same.decides name)
  rw [Option.isSome_map, Option.isSome_map] at decides
  rw [mem_names_iff, mem_names_iff, decides]

theorem requested (ordered : engine.names.Pairwise (· < ·)) (otherOrdered : other.names.Pairwise (· < ·))
    (request : Request) : engine.requested request = other.requested request := by
  cases request with
  | all => exact ordered.eq_of_mem_iff otherOrdered same.mem_names
  | named names => rfl

theorem decided (name : String) : engine.decided? image name = other.decided? image name := by
  have decides := same.decides name
  unfold decided?
  cases found : engine.checks.lookup name with
  | none =>
    rw [found] at decides
    rw [Option.map_eq_none_iff.mp decides.symm]
  | some registration =>
    rw [found] at decides
    obtain ⟨another, found', equal⟩ := Option.map_eq_some_iff.mp decides.symm
    rw [found', Option.bind_some, Option.bind_some, equal]

theorem register {check another : Check} (decides : check.decide image = another.decide image)
    (name : String) : (engine.register name check).SameChecks image (other.register name another) := by
  refine ⟨?_, same.required⟩
  intro made
  simp only [Engine.register, lookup_insert]
  by_cases here : made = name
  · simp only [if_pos here, Option.map_some, decides]
  · simp only [if_neg here, same.decides]

theorem require {after : Engine} {name : String} (accepted : engine.require name = .ok after) :
    ∃ another, other.require name = .ok another ∧ after.SameChecks image another := by
  cases answer : other.require name with
  | error error =>
    have absent := (require_error_iff.mp answer).1
    rw [← same.mem_names] at absent
    rw [require_error_iff.mpr ⟨absent, rfl⟩] at accepted
    cases accepted
  | ok another =>
    refine ⟨another, rfl, ?_, ?_⟩
    · intro made
      rw [(require_checks accepted).1, (require_checks answer).1]
      exact same.decides made
    · intro required
      rw [mem_required_of_require accepted, mem_required_of_require answer, same.required]

theorem enable {settings : Settings} {services others : Services} {text : String} {after : Engine}
    (evidence : services.SameEvidence image others) (checks : CheckSettings)
    (made : engine.enable settings services text = .ok after) :
    ∃ another, other.enable { settings with checks } others text = .ok another ∧
      after.SameChecks image another := by
  obtain ⟨name, spelled, later⟩ := bind_ok_iff.mp made
  obtain ⟨check, read, done⟩ := bind_ok_iff.mp later
  cases done
  obtain ⟨another, read', decides⟩ := Check.ofText_congr evidence read
  refine ⟨other.register name another, ?_, same.register decides name⟩
  exact bind_ok_iff.mpr ⟨name, spelled, bind_ok_iff.mpr ⟨another, read', rfl⟩⟩

theorem requireText {text : String} {after : Engine}
    (accepted : engine.requireText text = .ok after) :
    ∃ another, other.requireText text = .ok another ∧ after.SameChecks image another := by
  obtain ⟨name, spelled, required⟩ := bind_ok_iff.mp accepted
  obtain ⟨another, required', later⟩ := same.require required
  exact ⟨another, bind_ok_iff.mpr ⟨name, spelled, required'⟩, later⟩

end SameChecks

theorem ofSettings_sameChecks {settings : Settings} {services others : Services}
    {keyring : KeyRing} (evidence : services.SameEvidence image others) (otherKeyring : KeyRing)
    (dryRun : Bool) (made : ofSettings settings services keyring = .ok engine) :
    ∃ other, ofSettings { settings with checks := { settings.checks with dryRun } } others
        otherKeyring = .ok other ∧ engine.SameChecks image other := by
  obtain ⟨enabled, registered, required⟩ := bind_ok_iff.mp made
  let start : Engine := { metadata := services.metadata, keyring, dryRun := settings.checks.dryRun }
  let otherStart : Engine := { metadata := others.metadata, keyring := otherKeyring, dryRun }
  have begun : start.SameChecks image otherStart := ⟨fun _ => rfl, fun _ => Iff.rfl⟩
  obtain ⟨_, registered', alike⟩ := foldlM_relates (SameChecks image) registered begun
    fun _ _ _ _ made same => same.enable evidence { settings.checks with dryRun } made
  obtain ⟨other, required', same⟩ := foldlM_relates (SameChecks image) required alike
    fun _ _ _ _ accepted same => same.requireText accepted
  exact ⟨other, bind_ok_iff.mpr ⟨_, registered', required'⟩, same⟩

section

variable {request : Request} {course otherCourse : Course} {now later : Nat}
  {store otherStore : Store} {outcome otherOutcome : RunOutcome}
  (ordered : engine.names.Pairwise (· < ·)) (otherOrdered : other.names.Pairwise (· < ·))
  (same : engine.SameChecks image other)
  (answered : engine.answer request course image now false store = .ok (some outcome))
  (quiet : outcome.cancelled = false)

include ordered otherOrdered same answered quiet

theorem SameChecks.report
    (otherAnswered : other.answer request otherCourse image later false otherStore =
      .ok (some otherOutcome))
    (otherQuiet : otherOutcome.cancelled = false) :
    outcome.report.withoutAttestations = otherOutcome.report.withoutAttestations := by
  have gives : engine.Gives request course image now store outcome.report.results :=
    ⟨outcome, answered, quiet, rfl⟩
  have otherGives : other.Gives request otherCourse image later otherStore
      otherOutcome.report.results := ⟨otherOutcome, otherAnswered, otherQuiet, rfl⟩
  have decided := gives.decided ordered
  have otherDecided := otherGives.decided otherOrdered
  rw [same.requested ordered otherOrdered, funext same.decided, ← otherDecided] at decided
  have results := List.map_injective_iff.mpr (Option.some_injective _) decided
  rw [answer_whole ordered answered, answer_whole otherOrdered otherAnswered,
    report_withoutAttestations, report_withoutAttestations, results]
  simp only [Engine.report, Report.verdict_congr same.required]

theorem SameChecks.answers
    (submits : ∀ attestation store, other.metadata.submit image attestation store ≠ .never)
    (leaves : ∀ name registration, other.checks.lookup name = some registration →
      registration.check.cancels = false)
    (turns : Run.GivesTurns (other.requested request) (otherCourse (other.requested request)))
    (uncancelled : .cancel ∉ otherCourse (other.requested request)) :
    ∃ otherOutcome, other.answer request otherCourse image later false otherStore =
      .ok (some otherOutcome) ∧ otherOutcome.cancelled = false := by
  have gives : engine.Gives request course image now store outcome.report.results :=
    ⟨outcome, answered, quiet, rfl⟩
  have alone : ∀ name ∈ other.requested request, ∃ registration,
      other.checks.lookup name = some registration ∧
        Assignment.EndsAlone { engine := other, image, now := later } name registration := by
    intro name asked
    rw [← same.requested ordered otherOrdered, ← gives.names ordered] at asked
    obtain ⟨result, member, rfl⟩ := List.mem_map.mp asked
    obtain ⟨registration, found, comes, _⟩ := gives.mem ordered member
    have decides := same.decides result.name
    rw [found] at decides
    obtain ⟨another, found', equal⟩ := Option.map_eq_some_iff.mp decides.symm
    refine ⟨another, found', Assignment.endsAlone_of_answers submits (leaves _ _ found') ?_⟩
    intro hangs
    have never : registration.check.decide image = .never := equal.symm.trans hangs
    have decided := comes.decided
    simp only [never] at decided
    cases decided
  obtain ⟨_, otherOutcome, otherAnswered, otherQuiet, _⟩ :=
    gives_results otherStore otherOrdered turns uncancelled alone
  exact ⟨otherOutcome, otherAnswered, otherQuiet⟩

end

/-- Two engines that make the same checks and require the same ones report the same, without
cancellation, up to what results say about attestations: whatever their keys, whether anything is
attested, and whatever comes of submissions. If these are answered at all, the one reports whenever the
other does. Engines of the same settings but for dry runs make the same checks on the same evidence. -/
theorem answer_neutral (service otherService : MetadataService) (keyring otherKeyring : KeyRing)
    (history otherHistory : List Change) (image : ImageReference) :
    let engine := build service keyring history
    let other := build otherService otherKeyring otherHistory
    (engine.SameChecks image other →
      ∀ request course otherCourse now later store otherStore outcome,
        engine.answer request course image now false store = .ok (some outcome) →
        outcome.cancelled = false →
        (∀ otherOutcome,
          other.answer request otherCourse image later false otherStore = .ok (some otherOutcome) →
          otherOutcome.cancelled = false →
          outcome.report.withoutAttestations = otherOutcome.report.withoutAttestations) ∧
        ((∀ attestation store, otherService.submit image attestation store ≠ .never) →
          (∀ name registration, other.checks.lookup name = some registration →
            registration.check.cancels = false) →
          Run.GivesTurns (other.requested request) (otherCourse (other.requested request)) →
          .cancel ∉ otherCourse (other.requested request) →
          ∃ otherOutcome, other.answer request otherCourse image later false otherStore =
            .ok (some otherOutcome) ∧ otherOutcome.cancelled = false)) ∧
    ∀ (settings : Settings) (services others : Services) (dryRun : Bool) (made : Engine),
      services.SameEvidence image others → ofSettings settings services keyring = .ok made →
      ∃ another, ofSettings { settings with checks := { settings.checks with dryRun } } others
        otherKeyring = .ok another ∧ made.SameChecks image another := by
  intro engine other
  have ordered : engine.names.Pairwise (· < ·) := build_ordered service keyring history
  have otherOrdered : other.names.Pairwise (· < ·) :=
    build_ordered otherService otherKeyring otherHistory
  constructor
  · intro same request course otherCourse now later store otherStore outcome answered quiet
    constructor
    · intro otherOutcome otherAnswered otherQuiet
      exact same.report ordered otherOrdered answered quiet otherAnswered otherQuiet
    · intro submits leaves turns uncancelled
      refine same.answers ordered otherOrdered answered quiet ?_ leaves turns uncancelled
      rw [build_metadata]
      exact submits
  · intro settings services others dryRun made evidence
    exact ofSettings_sameChecks evidence otherKeyring dryRun

def attestless : Engine :=
  build (Catalogue.service {}) {}
    [.register "diy" { decide := fun _ => .value () },
      .register "org" { decide := fun _ => .failure (.rejected .noBuildDetail) }, .dryRun true]

def refused : Engine :=
  build { Catalogue.service {} with submit := fun _ _ _ => .failure (.request "connection reset") }
    { signers := [("diy", .ofSeed (List.replicate 32 7))] }
    [.registerWithoutAttestation "org" { decide := fun _ => .failure (.rejected .noBuildDetail) },
      .register "diy" { decide := fun _ => .value () }]

theorem answer_neutral_refused :
    let image : ImageReference := { name := "gcr.io/project/app", digest := "sha256:ab" }
    ∃ outcome otherOutcome,
      attestless.answer .all Run.onOneThread image 5 false {} = .ok (some outcome) ∧
      refused.answer .all Run.onOneThread image 5 false {} = .ok (some otherOutcome) ∧
      outcome.report.results.map (fun result => (result.name, result.success)) =
        [("diy", true), ("org", false)] ∧
      outcome.report.withoutAttestations = otherOutcome.report.withoutAttestations := by
  intro image
  obtain ⟨outcome, answered, results, quiet⟩ := exists_answer (fun outcome =>
      outcome.report.results.map (fun result => (result.name, result.success)) =
        [("diy", true), ("org", false)] ∧ outcome.cancelled = false)
    (by decide +kernel : (attestless.answer .all Run.onOneThread image 5 false {}).toOption.any _ = true)
  have same : attestless.SameChecks image refused := by
    refine ⟨?_, fun _ => Iff.rfl⟩
    intro name
    change (List.lookup name [("diy", _), ("org", _)]).map _ =
      (List.lookup name [("diy", _), ("org", _)]).map _
    simp only [Associations.lookup_cons_ite]
    by_cases first : name = "diy"
    · simp only [if_pos first, Option.map_some]
    · by_cases second : name = "org"
      · simp only [if_neg first, if_pos second, Option.map_some]
      · simp only [if_neg first, if_neg second, List.lookup_nil, Option.map_none]
  obtain ⟨alike, ends⟩ := (answer_neutral _ _ _ _ _ _ image).1 same .all Run.onOneThread Run.onOneThread
    5 5 {} {} outcome answered quiet
  have leaves : ∀ name registration, refused.checks.lookup name = some registration →
      registration.check.cancels = false := by
    intro name registration found
    obtain ⟨change, member, puts⟩ := registered_of_lookup found
    have decides : change.Decides image := by
      simp only [List.mem_cons, List.not_mem_nil, or_false] at member
      rcases member with rfl | rfl <;> simp [Change.Decides]
    exact (decides.registered puts).1
  obtain ⟨otherOutcome, otherAnswered, otherQuiet⟩ := ends (fun _ _ => by simp) leaves
    (Run.onOneThread_givesTurns _) (Run.onOneThread_uncancelled _)
  exact ⟨outcome, otherOutcome, answered, otherAnswered, results,
    alike otherOutcome otherAnswered otherQuiet⟩

end Engine

end Attestor
