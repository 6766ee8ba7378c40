import Attestor.Proofs.Engine.Progress

namespace Attestor

variable {assignment : Assignment}

def Stage.result? : Stage → Option CheckResult
  | .finished result => some result
  | _ => none

/-- What a check comes to when nothing cancels it, with the store that its attestation is submitted
to. -/
def Assignment.alone? (assignment : Assignment) (name : String) (registration : Registration)
    (store : Store) : Option CheckResult :=
  match assignment.made name registration with
  | .submitting attestation => (assignment.submitted name attestation store).1.result?
  | stage => stage.result?

namespace Assignment

variable {name : String} {registration : Registration}

def ComesTo (assignment : Assignment) (name : String) (registration : Registration)
    (result : CheckResult) : Prop :=
  ∃ store, assignment.alone? name registration store = some result

theorem alone_made {result : CheckResult} (made : assignment.made name registration = .finished result)
    (store : Store) : assignment.alone? name registration store = some result := by
  simp only [alone?, made, Stage.result?]

theorem alone_submitted {attestation : SignedAttestation}
    (made : assignment.made name registration = .submitting attestation) (store : Store) :
    assignment.alone? name registration store =
      (assignment.submitted name attestation store).1.result? := by
  simp only [alone?, made]

theorem made_submitting {attestation : SignedAttestation}
    (decided : registration.check.decide assignment.image = .value ())
    (asked : assignment.attests registration = true)
    (signed : assignment.sign name = .ok attestation) :
    assignment.made name registration = .submitting attestation := by
  simp only [made, decided, passed, asked, ↓reduceIte, signed]

variable (store : Store)

theorem alone_never (decided : registration.check.decide assignment.image = .never) :
    assignment.alone? name registration store = none := by
  simp only [alone?, made, decided, Stage.result?]

theorem alone_failed {error : CheckError}
    (decided : registration.check.decide assignment.image = .failure error) :
    assignment.alone? name registration store = some (.ofCheckError name error) := by
  refine alone_made ?_ store
  simp only [made, decided]

theorem alone_unasked (decided : registration.check.decide assignment.image = .value ())
    (asked : assignment.attests registration = false) :
    assignment.alone? name registration store = some (.passed name) := by
  refine alone_made ?_ store
  simp only [made, decided, passed, asked, Bool.false_eq_true, ↓reduceIte]

theorem alone_unsigned {error : Error}
    (decided : registration.check.decide assignment.image = .value ())
    (asked : assignment.attests registration = true) (signed : assignment.sign name = .error error) :
    assignment.alone? name registration store = some (.ofAttestError name error) := by
  refine alone_made ?_ store
  simp only [made, decided, passed, asked, ↓reduceIte, signed]

theorem alone_signed {attestation : SignedAttestation}
    (decided : registration.check.decide assignment.image = .value ())
    (asked : assignment.attests registration = true)
    (signed : assignment.sign name = .ok attestation) :
    assignment.alone? name registration store =
      (assignment.submitted name attestation store).1.result? :=
  alone_submitted (made_submitting decided asked signed) store

end Assignment

structure Task.Undisturbed (assignment : Assignment) (task : Task) : Prop where
  comes : ∀ result, task.stage = .finished result →
    assignment.ComesTo task.name task.registration result
  leaves : task.stage ≠ .checking → task.registration.check.cancels = false

theorem Advance.undisturbed {run : Run} {task : Task} {stage : Stage} {cancelled : Bool}
    {store : Store} (advance : Advance assignment run task stage cancelled store)
    (quiet : cancelled = false) (follows : task.Follows assignment)
    (undisturbed : task.Undisturbed assignment) :
    Task.Undisturbed assignment { task with stage } := by
  cases advance with
  | rest other stage =>
    rw [← stage]
    exact undisturbed
  | stop => cases quiet
  | make =>
    refine ⟨?_, fun _ => quiet⟩
    intro result finished
    exact ⟨run.store, Assignment.alone_made finished run.store⟩
  | withdraw => cases quiet
  | submit attestation stage =>
    rw [Task.Follows, stage] at follows
    obtain ⟨decided, asked, signed⟩ := follows
    have made := Assignment.made_submitting decided asked signed
    -- Alone the check would have come here with the store as it is now.
    refine ⟨?_, fun _ => undisturbed.leaves (by simp [stage])⟩
    intro result finished
    refine ⟨run.store, ?_⟩
    simp only at finished
    rw [Assignment.alone_submitted made, finished]
    rfl

theorem Advance.cancelled_of_cancelled {run : Run} {task : Task} {stage : Stage} {cancelled : Bool}
    {store : Store} (advance : Advance assignment run task stage cancelled store)
    (before : run.cancelled = true) : cancelled = true ∧ store = run.store := by
  cases advance with
  | rest => exact ⟨before, rfl⟩
  | stop => exact ⟨rfl, rfl⟩
  | make stage quiet =>
    rw [before] at quiet
    cases quiet
  | withdraw => exact ⟨rfl, rfl⟩
  | submit attestation stage quiet =>
    rw [before] at quiet
    cases quiet

namespace Run

theorem step_cancelled {run : Run} (event : Event) (before : run.cancelled = true) :
    (run.step assignment event).cancelled = true ∧
      (run.step assignment event).store = run.store := by
  cases event with
  | cancel => exact ⟨rfl, rfl⟩
  | advance name =>
    rcases advanceNamed_cases assignment name run run.tasks with
      unchanged | ⟨_, task, _, stage, cancelled, store, _, advance, made⟩
    · simp only [step, unchanged, and_true]
      exact before
    · simp only [step, made]
      exact advance.cancelled_of_cancelled before

theorem follow_cancelled {run : Run} (schedule : List Event) (before : run.cancelled = true) :
    (run.follow assignment schedule).cancelled = true ∧
      (run.follow assignment schedule).store = run.store := by
  induction schedule generalizing run with
  | nil => exact ⟨before, rfl⟩
  | cons event rest ih =>
    obtain ⟨cancelled, kept⟩ := step_cancelled event before
    obtain ⟨stays, same⟩ := ih cancelled
    exact ⟨stays, same.trans kept⟩

def Quiet (assignment : Assignment) (selected : List (String × Registration)) (run : Run) : Prop :=
  Keeping assignment selected run ∧
    (run.cancelled = false → ∀ task ∈ run.tasks, task.Undisturbed assignment)

theorem start_quiet (assignment : Assignment) (selected : List (String × Registration))
    (cancelled : Bool) (store : Store) :
    Quiet assignment selected (start selected cancelled store) := by
  refine ⟨start_keeping assignment selected cancelled store, ?_⟩
  intro _ task member
  obtain ⟨entry, _, rfl⟩ := List.mem_map.mp member
  refine ⟨?_, fun made => absurd rfl made⟩
  intro result finished
  cases finished

theorem step_quiet {selected : List (String × Registration)} {run : Run} (event : Event)
    (quiet : Quiet assignment selected run) :
    Quiet assignment selected (run.step assignment event) := by
  obtain ⟨keeping, undisturbed⟩ := quiet
  refine ⟨step_keeping event keeping, ?_⟩
  intro after
  have before : run.cancelled = false := by
    by_cases cancelled : run.cancelled = true
    · rw [(step_cancelled event cancelled).1] at after
      cases after
    · exact Bool.eq_false_iff.mpr cancelled
  refine step_each (undisturbed before) ?_
  intro task member stage cancelled store advance same
  rw [same] at after
  exact advance.undisturbed after (keeping.follows task member) (undisturbed before task member)

theorem follow_quiet {selected : List (String × Registration)} (schedule : List Event) {run : Run}
    (quiet : Quiet assignment selected run) :
    Quiet assignment selected (run.follow assignment schedule) :=
  follow_preserves _ schedule run (fun _ event keeps => step_quiet event keeps) quiet

end Run

namespace Ending

variable {name : String} {registration : Registration} {result : CheckResult}

/-- A check comes to what it comes to alone, or it is stopped, or its attestation is withdrawn. -/
theorem alone_or_cancelled (ending : Ending assignment name registration result) :
    assignment.ComesTo name registration result ∨
      result = .failed name .cancelled "check cancelled" ∨
      registration.check.decide assignment.image = .value () ∧
        assignment.attests registration = true ∧
        (∃ attestation, assignment.sign name = .ok attestation) ∧
        result = .unsigned name "operation cancelled" := by
  cases ending with
  | stopped => exact .inr (.inl rfl)
  | failed error decided => exact .inl ⟨{}, Assignment.alone_failed _ decided⟩
  | unasked decided asked => exact .inl ⟨{}, Assignment.alone_unasked _ decided asked⟩
  | unsigned error decided asked signed =>
    exact .inl ⟨{}, Assignment.alone_unsigned _ decided asked signed⟩
  | withdrawn attestation decided asked signed =>
    exact .inr (.inr ⟨decided, asked, ⟨attestation, signed⟩, rfl⟩)
  | refused attestation store error decided asked signed answer =>
    refine .inl ⟨store, ?_⟩
    rw [Assignment.alone_signed store decided asked signed, Assignment.submitted, answer]
    rfl
  | stored attestation record before after decided asked signed answer =>
    refine .inl ⟨before, ?_⟩
    rw [Assignment.alone_signed before decided asked signed, Assignment.submitted, answer]
    rfl

end Ending

namespace Engine

variable {selected : List (String × Registration)} {schedule : List Event} {cancelled : Bool}
  {store : Store} {outcome : RunOutcome}

/-- In a run that is not cancelled every check comes to what it comes to alone. -/
theorem runBy_alone (h : runBy assignment selected schedule cancelled store = some outcome)
    (quiet : outcome.cancelled = false) :
    List.Forall₂ (fun entry result =>
      assignment.ComesTo entry.1 entry.2 result ∧ entry.2.check.cancels = false) selected
      outcome.report.results := by
  obtain ⟨finished, _, same, _⟩ := runBy_last h
  have ⟨keeping, undisturbed⟩ := Run.follow_quiet schedule
    (Run.start_quiet assignment selected cancelled store)
  have each := undisturbed (same.symm.trans quiet)
  let Holds (name : String) (registration : Registration) (result : CheckResult) : Prop :=
    assignment.ComesTo name registration result ∧ registration.check.cancels = false
  have holds : ∀ task ∈ ((Run.start selected cancelled store).follow assignment schedule).tasks,
      ∀ result, task.stage = .finished result → Holds task.name task.registration result := by
    intro task member result stage
    exact ⟨(each task member).comes result stage, (each task member).leaves (by simp [stage])⟩
  have alone := Run.results_each finished holds
  rw [keeping.selected] at alone
  exact alone

end Engine

end Attestor
