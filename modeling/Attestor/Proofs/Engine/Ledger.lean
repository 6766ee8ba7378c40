import Attestor.Evidence.Recorded
import Attestor.Proofs.Engine.Progress
import Attestor.Proofs.Engine.Selection
import Attestor.Proofs.KeyRing
import Attestor.Proofs.Store.Filing
import Mathlib.Data.List.Nodup

namespace Attestor

variable {assignment : Assignment}

/-- The attestation that a result reports as stored. -/
def CheckResult.stored? (result : CheckResult) : Option SignedAttestation :=
  if result.attested then result.attestation else none

namespace Stage

def stored? : Stage → Option SignedAttestation
  | .finished result => result.stored?
  | _ => none

@[simp] theorem stored_finished (result : CheckResult) :
    (finished result).stored? = result.stored? := rfl

theorem stored_made (name : String) (registration : Registration) :
    (assignment.made name registration).stored? = none := by
  unfold Assignment.made
  split
  · unfold Assignment.passed
    split
    · split <;> rfl
    · rfl
  · rfl
  · rfl

end Stage

theorem Assignment.submitted_recorded {catalogue : Catalogue}
    (recorded : assignment.engine.metadata = catalogue.service) (name : String)
    (attestation : SignedAttestation) (store : Store) :
    assignment.submitted name attestation store =
      (.finished (.attestedBy name attestation), store.add assignment.image attestation) := by
  simp only [submitted, recorded, Catalogue.service]

/-- A step either stores nothing and reports nothing new as stored, or stores one attestation and
reports it. -/
theorem Advance.stores {catalogue : Catalogue} {run : Run} {task : Task} {stage : Stage}
    {cancelled : Bool} {store : Store} (recorded : assignment.engine.metadata = catalogue.service)
    (advance : Advance assignment run task stage cancelled store) :
    (stage.stored? = task.stage.stored? ∧ store = run.store) ∨
      ∃ attestation, task.stage.stored? = none ∧ stage.stored? = some attestation ∧
        store = run.store.add assignment.image attestation := by
  cases advance with
  | rest result stage => exact .inl ⟨by rw [stage], rfl⟩
  | stop stage => exact .inl ⟨by rw [stage]; rfl, rfl⟩
  | make stage => exact .inl ⟨by rw [stage, Stage.stored_made]; rfl, rfl⟩
  | withdraw attestation stage => exact .inl ⟨by rw [stage]; rfl, rfl⟩
  | submit attestation stage =>
    rw [Assignment.submitted_recorded recorded]
    exact .inr ⟨attestation, by rw [stage]; rfl, rfl, rfl⟩

namespace Run

def stored (run : Run) : List SignedAttestation :=
  run.tasks.filterMap (·.stage.stored?)

/-- The store is what it was before the run, and for the image of the run it also holds what is
reported as stored. -/
def Ledger (assignment : Assignment) (before : Store) (run : Run) : Prop :=
  ∃ added, run.store = before.addAll assignment.image added ∧ added.Perm run.stored

theorem start_ledger (assignment : Assignment) (selected : List (String × Registration))
    (cancelled : Bool) (store : Store) :
    Ledger assignment store (start selected cancelled store) := by
  have nothing : (start selected cancelled store).stored = [] := by
    simp only [stored, List.filterMap_eq_nil_iff]
    intro task member
    obtain ⟨entry, _, rfl⟩ := List.mem_map.mp member
    rfl
  exact ⟨[], rfl, by rw [nothing]⟩

theorem step_ledger {catalogue : Catalogue} {before : Store} {run : Run} (event : Event)
    (recorded : assignment.engine.metadata = catalogue.service)
    (ledger : Ledger assignment before run) :
    Ledger assignment before (run.step assignment event) := by
  obtain ⟨added, held, same⟩ := ledger
  rcases step_cases assignment run event with
    ⟨tasks, store⟩ | ⟨first, moved, last, stage, cancelled, store, split, advance, made⟩
  · refine ⟨added, by rw [store, held], ?_⟩
    rw [stored, tasks]
    exact same
  · rw [stored, split] at same
    rw [made]
    rcases advance.stores recorded with ⟨kept, rfl⟩ | ⟨attestation, unreported, reported, rfl⟩
    · refine ⟨added, held, ?_⟩
      simpa only [stored, List.filterMap_append, List.filterMap_cons, kept] using same
    · refine ⟨added ++ [attestation], ?_, ?_⟩
      · rw [Store.addAll_concat, held]
      · have more : (added ++ [attestation]).Perm (attestation :: added) := List.perm_append_comm
        refine more.trans ((same.cons attestation).trans ?_)
        simp only [stored, List.filterMap_append, List.filterMap_cons, unreported, reported]
        exact List.perm_middle.symm

theorem follow_ledger {catalogue : Catalogue} {before : Store} {run : Run} (schedule : List Event)
    (recorded : assignment.engine.metadata = catalogue.service)
    (ledger : Ledger assignment before run) :
    Ledger assignment before (run.follow assignment schedule) :=
  follow_preserves _ schedule run (fun _ event keeps => step_ledger event recorded keeps) ledger

theorem stored_results {run : Run} {results : List CheckResult}
    (finished : run.results? = some results) :
    run.stored = results.filterMap CheckResult.stored? := by
  have stages := results_finished finished
  unfold stored
  clear finished
  generalize run.tasks = tasks at stages
  induction stages with
  | nil => rfl
  | cons stage _ ih => simp only [List.filterMap_cons, stage, Stage.stored_finished, ih]

end Run

namespace Ending

variable {name : String} {registration : Registration} {result : CheckResult}

theorem name_eq (ending : Ending assignment name registration result) : result.name = name := by
  cases ending <;> rfl

theorem attested_iff (ending : Ending assignment name registration result) :
    result.attested = result.attestation.isSome := by
  cases ending <;> rfl

theorem of_attestation {attestation : SignedAttestation}
    (ending : Ending assignment name registration result)
    (attested : result.attestation = some attestation) :
    result.success = true ∧ registration.check.decide assignment.image = .value () ∧
      assignment.attests registration = true ∧ ∃ signed before after,
        assignment.sign name = .ok signed ∧
          assignment.engine.metadata.submit assignment.image signed before =
            .value (attestation, after) := by
  cases ending with
  | stored signed record before after decided asked made answer =>
    cases attested
    exact ⟨rfl, decided, asked, signed, before, after, made, answer⟩
  | _ => cases attested

theorem signed_of_attestation {catalogue : Catalogue} {attestation : SignedAttestation}
    (recorded : assignment.engine.metadata = catalogue.service)
    (ending : Ending assignment name registration result)
    (attested : result.attestation = some attestation) :
    assignment.sign name = .ok attestation := by
  obtain ⟨_, _, _, signed, before, after, made, answer⟩ := ending.of_attestation attested
  rw [recorded] at answer
  cases answer
  exact made

end Ending

theorem CheckResult.stored_attestation {result : CheckResult} {attestation : SignedAttestation}
    (stored : result.stored? = some attestation) : result.attestation = some attestation := by
  simp only [stored?] at stored
  split at stored
  · exact stored
  · cases stored

namespace Engine

theorem endings_names {selected : List (String × Registration)} {results : List CheckResult}
    (endings : List.Forall₂ (fun entry result => Ending assignment entry.1 entry.2 result) selected
      results) : results.map (·.name) = selected.map (·.1) := by
  induction endings with
  | nil => rfl
  | cons ending _ ih => rw [List.map_cons, List.map_cons, ending.name_eq, ih]

theorem endings_mem {selected : List (String × Registration)} {results : List CheckResult}
    (endings : List.Forall₂ (fun entry result => Ending assignment entry.1 entry.2 result) selected
      results) {result : CheckResult} (member : result ∈ results) :
    ∃ registration, (result.name, registration) ∈ selected ∧
      Ending assignment result.name registration result := by
  obtain ⟨⟨name, registration⟩, chosen, ending⟩ := exists_left_of_mem endings member
  obtain rfl := ending.name_eq
  exact ⟨registration, chosen, ending⟩

theorem endings_stored {catalogue : Catalogue} {selected : List (String × Registration)}
    {results : List CheckResult} (recorded : assignment.engine.metadata = catalogue.service)
    (endings : List.Forall₂ (fun entry result => Ending assignment entry.1 entry.2 result) selected
      results) :
    ((results.filterMap CheckResult.stored?).map (·.checkName)).Sublist (results.map (·.name)) := by
  induction endings with
  | nil => exact List.Sublist.slnil
  | @cons entry result _ _ ending _ ih =>
    cases stored : result.stored? with
    | none =>
      rw [List.filterMap_cons_none stored]
      exact ih.cons _
    | some attestation =>
      rw [List.filterMap_cons_some stored, List.map_cons, List.map_cons]
      have made := ending.signed_of_attestation recorded (CheckResult.stored_attestation stored)
      obtain ⟨_, _, _, _, named, _⟩ := Assignment.sign_spec made
      rw [named, ending.name_eq]
      exact ih.cons_cons _

section

variable {catalogue : Catalogue} {keyring : KeyRing} {history : List Change} {course : Course}
  {image : ImageReference} {now : Nat} {cancelled : Bool} {store : Store} {outcome : RunOutcome}

theorem Reports.results
    (reports : (build catalogue.service keyring history).Reports course image now cancelled store
      outcome) :
    (outcome.report.results.map (·.name)).Pairwise (· < ·) ∧
    (∃ added, outcome.store = store.addAll image added ∧
      added.Perm (outcome.report.results.filterMap CheckResult.stored?) ∧
      (added.map (·.checkName)).Nodup) ∧
    ∀ result ∈ outcome.report.results, ∃ registration,
      (build catalogue.service keyring history).checks.lookup result.name = some registration ∧
      Ending { engine := build catalogue.service keyring history, image, now } result.name
        registration result := by
  obtain ⟨selected, schedule, ordered, registered, ran⟩ :=
    reports.runBy (build_ordered catalogue.service keyring history)
  let assignment : Assignment := { engine := build catalogue.service keyring history, image, now }
  have recorded : assignment.engine.metadata = catalogue.service := build_metadata ..
  have endings := runBy_endings ran
  obtain ⟨finished, stores, _⟩ := runBy_last ran
  obtain ⟨added, held, same⟩ := Run.follow_ledger schedule recorded
    (Run.start_ledger assignment selected cancelled store)
  rw [Run.stored_results finished] at same
  have names := endings_names endings
  refine ⟨by rw [names]; exact ordered, ⟨added, by rw [stores, held], same, ?_⟩, ?_⟩
  · have once : (outcome.report.results.map (·.name)).Nodup := by
      rw [names]
      exact nodup_of_ordered ordered
    exact (same.map _).nodup_iff.mpr ((endings_stored recorded endings).nodup once)
  · intro result member
    obtain ⟨registration, chosen, ending⟩ := endings_mem endings member
    exact ⟨registration, registered _ chosen, ending⟩

theorem Reports.stored_image
    (reports : (build catalogue.service keyring history).Reports course image now cancelled store
      outcome) {attestation : SignedAttestation}
    (member : attestation ∈ outcome.report.results.filterMap CheckResult.stored?) :
    attestation.image = outcome.report.image := by
  obtain ⟨_, _, endings⟩ := reports.results
  obtain ⟨_, _, _, _, ran⟩ := reports.runBy (build_ordered ..)
  obtain ⟨_, _, _, whole⟩ := runBy_last ran
  obtain ⟨result, reported, stored⟩ := List.mem_filterMap.mp member
  obtain ⟨registration, _, ending⟩ := endings result reported
  have made := ending.signed_of_attestation (build_metadata ..)
    (CheckResult.stored_attestation stored)
  obtain ⟨_, _, _, _, _, canonical, _⟩ := Assignment.sign_spec made
  rw [whole]
  exact canonical

/-- A run on recorded evidence adds to the list of its image what its results report as stored, at
most one attestation for a check, and changes no other list. What is reported as stored was asked
for, and its check passed and has a signer. -/
theorem run_files_reported
    (reports : (build catalogue.service keyring history).Reports course image now cancelled store
      outcome) :
    (∃ added, outcome.store.attestations image = store.attestations image ++ added ∧
      added.Perm (outcome.report.results.filterMap CheckResult.stored?) ∧
      (added.map (·.checkName)).Nodup) ∧
    (∀ other, other ≠ image → outcome.store.attestations other = store.attestations other) ∧
    ∀ result ∈ outcome.report.results,
      result.attested = result.attestation.isSome ∧
      (∀ attestation, result.attestation = some attestation →
        attestation.checkName = result.name) ∧
      (result.attested = true → result.success = true ∧
        (build catalogue.service keyring history).dryRun = false ∧
        (∃ signer, keyring.signer result.name = .ok signer) ∧
        ∃ check, Change.latest? history result.name = some (.register result.name check) ∧
          check.decide image = .value ()) := by
  obtain ⟨_, ⟨added, held, same, once⟩, endings⟩ := reports.results
  have recorded : (build catalogue.service keyring history).metadata = catalogue.service :=
    build_metadata ..
  refine ⟨⟨added, by simp [held], same, once⟩, ?_, ?_⟩
  · intro other different
    simp [held, different]
  · intro result member
    obtain ⟨registration, registered, ending⟩ := endings result member
    refine ⟨ending.attested_iff, ?_, ?_⟩
    · intro attestation attested
      obtain ⟨_, _, _, _, named, _⟩ :=
        Assignment.sign_spec (ending.signed_of_attestation recorded attested)
      exact named
    · intro attested
      rw [ending.attested_iff] at attested
      obtain ⟨attestation, present⟩ := Option.isSome_iff_exists.mp attested
      obtain ⟨success, decided, asked, _⟩ := ending.of_attestation present
      obtain ⟨signer, found, _⟩ :=
        Assignment.sign_spec (ending.signed_of_attestation recorded present)
      simp only [Assignment.attests, Bool.and_eq_true, Bool.not_eq_true'] at asked
      obtain ⟨⟨attests, wet⟩, _⟩ := asked
      refine ⟨success, wet, ⟨signer, by simpa using found⟩, registration.check, ?_, decided⟩
      rw [lookup_build] at registered
      obtain ⟨change, last, puts⟩ := Option.bind_eq_some_iff.mp registered
      rw [last, Change.registration_attests puts attests]

end

def bare : Engine :=
  build (Catalogue.service {}) { signers := [("diy", .ofSeed (List.replicate 32 7))] }
    [.register "diy" { decide := fun _ => .value () }]

theorem run_files_reported_bare :
    let image : ImageReference := { name := "gcr.io/project/app", digest := "sha256:ab" }
    ∃ outcome, bare.Reports Run.onOneThread image 5 false {} outcome ∧
      outcome.report.results.map (·.attested) = [true] ∧
      ∃ added, outcome.store.attestations image = added ∧
        added.Perm (outcome.report.results.filterMap CheckResult.stored?) ∧
        (added.map (·.checkName)).Nodup := by
  intro image
  have ends : (bare.runAlong Run.onOneThread image 5 false {}).any
      (fun outcome => outcome.report.results.map (·.attested) = [true]) := by
    decide +kernel
  obtain ⟨outcome, ran, attested⟩ := (Option.any_eq_true _ _).mp ends
  exact ⟨outcome, .inl ran, of_decide_eq_true attested, (run_files_reported (.inl ran)).1⟩

end Engine

end Attestor
