import Attestor.Proofs.Engine.Request
import Attestor.Proofs.Engine.Turns

namespace Attestor

variable {assignment : Assignment} {name : String} {registration : Registration}
  {result : CheckResult}

namespace Assignment

theorem ComesTo.ending (comes : assignment.ComesTo name registration result) :
    Ending assignment name registration result := by
  obtain ⟨store, alone⟩ := comes
  have follows := assignment.made_follows name registration
  cases made : assignment.made name registration with
  | checking => simp [alone?, made, Stage.result?] at alone
  | finished other =>
    rw [alone_made made] at alone
    cases alone
    rw [made] at follows
    exact follows
  | submitting attestation =>
    rw [alone_submitted made] at alone
    rw [made] at follows
    have later := assignment.submitted_follows name registration attestation store follows
    cases stage : (assignment.submitted name attestation store).1 with
    | checking => simp [stage, Stage.result?] at alone
    | submitting => simp [stage, Stage.result?] at alone
    | finished other =>
      rw [stage] at alone later
      cases alone
      exact later

/-- A check that decides comes to an end where submissions are answered. -/
theorem endsAlone_of_answers
    (answers : ∀ attestation store,
      assignment.engine.metadata.submit assignment.image attestation store ≠ .never)
    (leaves : registration.check.cancels = false)
    (decides : registration.check.decide assignment.image ≠ .never) :
    assignment.EndsAlone name registration := by
  refine ⟨leaves, fun store => ?_⟩
  cases decided : registration.check.decide assignment.image with
  | never => exact absurd decided decides
  | failure error => rw [alone_failed store decided]; rfl
  | value =>
    cases asked : assignment.attests registration with
    | false => rw [alone_unasked store decided asked]; rfl
    | true =>
      cases signed : assignment.sign name with
      | error error => rw [alone_unsigned store decided asked signed]; rfl
      | ok attestation =>
        rw [alone_signed store decided asked signed, submitted]
        cases answer : assignment.engine.metadata.submit assignment.image attestation store with
        | never => exact absurd answer (answers attestation store)
        | failure error => rfl
        | value => rfl

end Assignment

/-- A check that is registered decides about an image, and does not cancel the run that it is part
of. -/
def Change.Decides (image : ImageReference) : Change → Prop
  | .register _ check => check.cancels = false ∧ check.decide image ≠ .never
  | .registerWithoutAttestation _ check => check.cancels = false ∧ check.decide image ≠ .never
  | _ => True

theorem Change.Decides.registered {image : ImageReference} {change : Change}
    (decides : change.Decides image) (puts : change.registration? name = some registration) :
    registration.check.cancels = false ∧ registration.check.decide image ≠ .never := by
  cases change with
  | require other => cases puts
  | dryRun value => cases puts
  | register other check =>
    simp only [Change.registration?] at puts
    split at puts
    · cases puts
      exact decides
    · cases puts
  | registerWithoutAttestation other check =>
    simp only [Change.registration?] at puts
    split at puts
    · cases puts
      exact decides
    · cases puts

namespace Engine

def Gives (engine : Engine) (request : Request) (course : Course) (image : ImageReference)
    (now : Nat) (store : Store) (results : List CheckResult) : Prop :=
  ∃ outcome, engine.answer request course image now false store = .ok (some outcome) ∧
    outcome.cancelled = false ∧ outcome.report.results = results

variable {engine : Engine} {request : Request} {course : Course} {image : ImageReference} {now : Nat}
  {store : Store} {results : List CheckResult}

theorem Gives.alone (ordered : engine.names.Pairwise (· < ·))
    (gives : engine.Gives request course image now store results) :
    ∃ selected, engine.Selects request selected ∧
      List.Forall₂ (fun entry result =>
        Assignment.ComesTo { engine, image, now } entry.1 entry.2 result ∧
          entry.2.check.cancels = false) selected results := by
  obtain ⟨outcome, answered, quiet, rfl⟩ := gives
  obtain ⟨selected, selects, ran⟩ := answer_report ordered answered
  exact ⟨selected, selects, runBy_alone ran quiet⟩

theorem Gives.names (ordered : engine.names.Pairwise (· < ·))
    (gives : engine.Gives request course image now store results) :
    results.map (·.name) = engine.requested request := by
  obtain ⟨_, answered, _, rfl⟩ := gives
  exact answer_names ordered answered

theorem Gives.mem (ordered : engine.names.Pairwise (· < ·))
    (gives : engine.Gives request course image now store results) (member : result ∈ results) :
    ∃ registration, engine.checks.lookup result.name = some registration ∧
      Assignment.ComesTo { engine, image, now } result.name registration result ∧
      registration.check.cancels = false := by
  obtain ⟨selected, selects, alone⟩ := gives.alone ordered
  obtain ⟨⟨name, registration⟩, chosen, comes, leaves⟩ := exists_left_of_mem alone member
  obtain rfl := comes.ending.name_eq
  exact ⟨registration, selects.registered _ chosen, comes, leaves⟩

theorem gives_results (store : Store) (ordered : engine.names.Pairwise (· < ·))
    (turns : Run.GivesTurns (engine.requested request) (course (engine.requested request)))
    (uncancelled : .cancel ∉ course (engine.requested request))
    (alone : ∀ name ∈ engine.requested request, ∃ registration,
      engine.checks.lookup name = some registration ∧
        Assignment.EndsAlone { engine, image, now } name registration) :
    ∃ results, engine.Gives request course image now store results := by
  have registered : ∀ name ∈ engine.requested request, name ∈ engine.names := by
    intro name member
    obtain ⟨registration, found, _⟩ := alone name member
    exact List.mem_map_of_mem (Associations.mem_of_lookup found)
  obtain ⟨selected, selects, answered⟩ := answer_registered ordered registered
  have ends : ∀ entry ∈ selected,
      Assignment.EndsAlone { engine, image, now } entry.1 entry.2 := by
    intro entry member
    have asked : entry.1 ∈ engine.requested request := by
      rw [← selects.names]
      exact List.mem_map_of_mem member
    obtain ⟨registration, found, ends⟩ := alone entry.1 asked
    rw [selects.registered entry member] at found
    cases found
    exact ends
  rw [← selects.names] at turns uncancelled
  obtain ⟨outcome, ran, quiet⟩ :=
    runBy_ends store (nodup_of_ordered selects.ordered) turns uncancelled ends
  refine ⟨outcome.report.results, outcome, ?_, quiet, rfl⟩
  rw [answered, ← selects.names, ran]

/-- On recorded evidence a request for registered checks is answered, if every check decides and none
cancels the run. -/
theorem gives_recorded {catalogue : Catalogue} {keyring : KeyRing} {history : List Change}
    (store : Store)
    (registered : ∀ name ∈ (build catalogue.service keyring history).requested request,
      name ∈ (build catalogue.service keyring history).names)
    (decides : ∀ change ∈ history, change.Decides image) :
    ∃ results, (build catalogue.service keyring history).Gives request Run.onOneThread image now store
      results := by
  refine gives_results store (build_ordered ..) (Run.onOneThread_givesTurns _)
    (Run.onOneThread_uncancelled _) ?_
  intro name asked
  obtain ⟨registration, found⟩ := Option.isSome_iff_exists.mp (mem_names_iff.mp (registered name asked))
  obtain ⟨change, member, puts⟩ := registered_of_lookup found
  obtain ⟨leaves, ends⟩ := (decides change member).registered puts
  refine ⟨registration, found, Assignment.endsAlone_of_answers ?_ leaves ends⟩
  intro attestation store
  rw [build_metadata]
  simp [Catalogue.service]

end Engine

end Attestor
