import Attestor.Proofs.Engine.Quiet

namespace Attestor

variable {assignment : Assignment}

namespace Run

structure Stopped (run : Run) : Prop where
  cancelled : run.cancelled = true
  unmade : ∀ task ∈ run.tasks,
    task.stage = .checking ∨ task.stage = .finished (.ofCheckError task.name .cancelled)

theorem start_stopped (selected : List (String × Registration)) (store : Store) :
    Stopped (start selected true store) := by
  refine ⟨rfl, ?_⟩
  intro task member
  obtain ⟨entry, _, rfl⟩ := List.mem_map.mp member
  exact .inl rfl

theorem step_stopped {run : Run} (event : Event) (stopped : Stopped run) :
    Stopped (run.step assignment event) := by
  obtain ⟨cancelled, unmade⟩ := stopped
  refine ⟨(step_cancelled event cancelled).1, ?_⟩
  refine step_each unmade ?_
  intro task member stage after store advance _
  cases advance with
  | rest result was =>
    rw [← was]
    exact unmade task member
  | stop => exact .inr rfl
  | make _ quiet => simp [cancelled] at quiet
  | submit _ _ quiet => simp [cancelled] at quiet
  | withdraw attestation was =>
    rcases unmade task member with checking | finished
    · simp [was] at checking
    · simp [was] at finished

theorem follow_stopped (schedule : List Event) {run : Run} (stopped : Stopped run) :
    Stopped (run.follow assignment schedule) :=
  follow_preserves _ schedule run (fun _ event keeps => step_stopped event keeps) stopped

end Run

namespace Engine

theorem runBy_stopped {selected : List (String × Registration)} {schedule : List Event}
    {store : Store} {outcome : RunOutcome}
    (ran : runBy assignment selected schedule true store = some outcome) :
    outcome.store = store ∧ ∀ result ∈ outcome.report.results,
      result = .failed result.name .cancelled "check cancelled" := by
  obtain ⟨finished, stored, _, _⟩ := runBy_last ran
  have begun := Run.start_stopped selected store
  have stopped : Run.Stopped ((Run.start selected true store).follow assignment schedule) :=
    Run.follow_stopped schedule begun
  refine ⟨stored.trans (Run.follow_cancelled schedule begun.cancelled).2, ?_⟩
  have stages := Run.results_finished finished
  intro result member
  obtain ⟨task, here, stage⟩ := exists_left_of_mem stages member
  rcases stopped.unmade task here with checking | cancelled
  · rw [stage] at checking
    cases checking
  · rw [stage] at cancelled
    cases cancelled
    rfl

end Engine

namespace Run

variable {name : String} {registration : Registration} {store : Store}

def ofOne (name : String) (registration : Registration) (store : Store) (stage : Stage) : Run :=
  { cancelled := false, store, tasks := [{ name, registration, stage }] }

theorem step_ofOne_checking (leaves : registration.check.cancels = false) :
    (ofOne name registration store .checking).step assignment (.advance name) =
      ofOne name registration store (assignment.made name registration) := by
  simp [ofOne, step, advanceNamed, advance, leaves]

theorem step_ofOne_submitting (attestation : SignedAttestation) :
    (ofOne name registration store (.submitting attestation)).step assignment (.advance name) =
      ofOne name registration (assignment.submitted name attestation store).2
        (assignment.submitted name attestation store).1 := by
  simp [ofOne, step, advanceNamed, advance]

theorem step_ofOne_finished (result : CheckResult) :
    (ofOne name registration store (.finished result)).step assignment (.advance name) =
      ofOne name registration store (.finished result) := by
  simp [ofOne, step, advanceNamed, advance]

theorem follow_ofOne {result : CheckResult} (leaves : registration.check.cancels = false)
    (alone : assignment.alone? name registration store = some result) :
    ∃ after, (start [(name, registration)] false store).follow assignment (onOneThread [name]) =
      ofOne name registration after (.finished result) := by
  have begins : start [(name, registration)] false store =
      ofOne name registration store .checking := rfl
  have turns : onOneThread [name] =
      [.advance name, .advance name, .advance name, .advance name] := rfl
  rw [begins, turns]
  simp only [follow, List.foldl_cons, List.foldl_nil, step_ofOne_checking leaves]
  cases made : assignment.made name registration with
  | checking => simp [Assignment.alone?, made, Stage.result?] at alone
  | finished other =>
    rw [Assignment.alone_made made] at alone
    cases alone
    exact ⟨store, by simp only [step_ofOne_finished]⟩
  | submitting attestation =>
    rw [Assignment.alone_submitted made] at alone
    simp only [step_ofOne_submitting]
    cases stage : (assignment.submitted name attestation store).1 with
    | checking => simp [stage, Stage.result?] at alone
    | submitting => simp [stage, Stage.result?] at alone
    | finished other =>
      rw [stage] at alone
      cases alone
      refine ⟨(assignment.submitted name attestation store).2, ?_⟩
      simp only [step_ofOne_finished]

end Run

namespace Engine

variable {engine : Engine} {image : ImageReference} {now : Nat}

/-- What a check comes to is what it gives in a run of its own that nobody cancels. -/
theorem comes_iff_gives (ordered : engine.names.Pairwise (· < ·)) {name : String}
    {registration : Registration} {result : CheckResult}
    (found : engine.checks.lookup name = some registration)
    (leaves : registration.check.cancels = false) :
    Assignment.ComesTo { engine, image, now } name registration result ↔
      ∃ store, engine.Gives (.named [name]) Run.onOneThread image now store [result] := by
  constructor
  · rintro ⟨store, alone⟩
    have registered : ∀ other ∈ engine.requested (.named [name]), other ∈ engine.names := by
      intro other member
      rw [requested_named_singleton, List.mem_singleton] at member
      rw [member]
      exact List.mem_map_of_mem (Associations.mem_of_lookup found)
    obtain ⟨selected, selects, answered⟩ := answer_registered ordered registered
    have only : selected = [(name, registration)] := by
      have names := selects.names
      rw [requested_named_singleton] at names
      obtain ⟨⟨other, held⟩, rfl, rfl⟩ := List.map_eq_singleton_iff.mp names
      have same := (selects.registered _ (List.mem_singleton_self _)).symm.trans found
      cases same
      rfl
    obtain ⟨after, ended⟩ := Run.follow_ofOne leaves alone
    have ran : runBy { engine, image, now } selected
        (Run.onOneThread (engine.requested (.named [name]))) false store =
        some { report := engine.report image [result], cancelled := false, store := after } := by
      rw [only, requested_named_singleton, runBy, ended]
      rfl
    exact ⟨store, _, (answered ..).trans (congrArg Except.ok ran), rfl, rfl⟩
  · rintro ⟨store, gives⟩
    obtain ⟨other, held, comes, _⟩ := gives.mem ordered (List.mem_singleton_self result)
    have named := gives.names ordered
    rw [requested_named_singleton] at named
    obtain rfl : result.name = name := List.singleton_inj.mp named
    rw [found] at held
    cases held
    exact comes

/-- However and whenever a run is cancelled, it has one result for each check that was asked for: what
the check comes to without cancellation, or that it was cancelled, or that it passed and its submission
was. A run that is cancelled from the start makes no check. From the moment of cancellation nothing is
stored, and a cancelled run ends even if its checks hang. -/
theorem answer_cancelled (service : MetadataService) (keyring : KeyRing) (history : List Change)
    (image : ImageReference) (now : Nat) :
    let engine := build service keyring history
    let assignment : Assignment := { engine, image, now }
    (∀ request course cancelled store outcome,
      engine.answer request course image now cancelled store = .ok (some outcome) →
      outcome.report.results.map (·.name) = engine.requested request ∧
      (engine.requested request).Pairwise (· < ·) ∧
      (∀ result ∈ outcome.report.results, ∃ registration,
        engine.checks.lookup result.name = some registration ∧
        (assignment.ComesTo result.name registration result ∨
          result = .failed result.name .cancelled "check cancelled" ∨
          registration.check.decide image = .value () ∧
            assignment.attests registration = true ∧
            (∃ attestation, assignment.sign result.name = .ok attestation) ∧
            result = .unsigned result.name "operation cancelled")) ∧
      (cancelled = true → outcome.store = store ∧ ∀ result ∈ outcome.report.results,
        result = .failed result.name .cancelled "check cancelled")) ∧
    (∀ name registration, engine.checks.lookup name = some registration →
      registration.check.cancels = false → ∀ result,
        (assignment.ComesTo name registration result ↔
          ∃ store, engine.Gives (.named [name]) Run.onOneThread image now store [result])) ∧
    (∀ (run : Run) (schedule : List Event), run.cancelled = true →
      (run.follow assignment schedule).store = run.store) ∧
    ∀ request course store, (∀ name ∈ engine.requested request, name ∈ engine.names) →
      Run.GivesTurns (engine.requested request) (course (engine.requested request)) →
      ∃ outcome, engine.answer request course image now true store = .ok (some outcome) := by
  intro engine assignment
  have ordered : engine.names.Pairwise (· < ·) := build_ordered service keyring history
  refine ⟨?_, ?_, ?_, ?_⟩
  · intro request course cancelled store outcome answered
    obtain ⟨selected, selects, ran⟩ := answer_report ordered answered
    have endings := runBy_endings ran
    refine ⟨answer_names ordered answered, requested_ordered ordered request, ?_, ?_⟩
    · intro result member
      obtain ⟨registration, chosen, ending⟩ := endings_mem endings member
      exact ⟨registration, selects.registered _ chosen, ending.alone_or_cancelled⟩
    · rintro rfl
      exact runBy_stopped ran
  · intro name registration found leaves result
    exact comes_iff_gives ordered found leaves
  · intro run schedule cancelled
    exact (Run.follow_cancelled schedule cancelled).2
  · intro request course store registered turns
    obtain ⟨selected, selects, answered⟩ := answer_registered ordered registered
    have distinct := nodup_of_ordered selects.ordered
    rw [← selects.names] at turns
    obtain ⟨outcome, ran⟩ := runBy_ends_cancelled store distinct turns
    rw [selects.names] at ran
    exact ⟨outcome, (answered ..).trans (congrArg Except.ok ran)⟩

def hanging : Engine :=
  build (Catalogue.service {}) { signers := [("diy", .ofSeed (List.replicate 32 7))] }
    [.register "diy" { decide := fun _ => .value () }, .register "org" { decide := fun _ => .never }]

theorem answer_cancelled_hanging :
    let image : ImageReference := { name := "gcr.io/project/app", digest := "sha256:ab" }
    let course : Course := fun _ =>
      [.advance "diy", .advance "org", .cancel, .advance "diy", .advance "org"]
    (∃ outcome, hanging.answer .all course image 5 false {} = .ok (some outcome) ∧
      outcome.report.results.map (·.name) = hanging.requested .all ∧
      outcome.report.results =
        [.unsigned "diy" "operation cancelled", .failed "org" .cancelled "check cancelled"]) ∧
    ∃ outcome, hanging.answer .all Run.onOneThread image 5 true {} = .ok (some outcome) ∧
      outcome.store = {} ∧ ∀ result ∈ outcome.report.results,
        result = .failed result.name .cancelled "check cancelled" := by
  intro image course
  obtain ⟨reported, _, _, ends⟩ := answer_cancelled (Catalogue.service {})
    { signers := [("diy", .ofSeed (List.replicate 32 7))] }
    [.register "diy" { decide := fun _ => .value () }, .register "org" { decide := fun _ => .never }]
    image 5
  constructor
  · obtain ⟨outcome, answered, results⟩ := exists_answer (fun outcome => outcome.report.results =
        [.unsigned "diy" "operation cancelled", .failed "org" .cancelled "check cancelled"])
      (by decide +kernel : (hanging.answer .all course image 5 false {}).toOption.any _ = true)
    exact ⟨outcome, answered, (reported _ _ _ _ _ answered).1, results⟩
  · obtain ⟨outcome, answered⟩ := ends .all Run.onOneThread {} (fun _ asked => asked)
      (Run.onOneThread_givesTurns _)
    exact ⟨outcome, answered, (reported _ _ _ _ _ answered).2.2.2 rfl⟩

end Engine

end Attestor
