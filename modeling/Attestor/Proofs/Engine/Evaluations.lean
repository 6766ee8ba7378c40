import Attestor.Proofs.Engine.Quiet

namespace Attestor

variable {assignment : Assignment}

/-- A result states what the evaluation of its check came to. -/
def CheckResult.States (result : CheckResult) : Verdict → Prop
  | .value () => result.success = true
  | .failure error => result = .ofCheckError result.name error
  | .never => False

namespace Task

def waiting? (task : Task) : Option String :=
  match task.stage with
  | .checking => some task.name
  | _ => none

theorem waiting_of_checking {task : Task} (stage : task.stage = .checking) :
    task.waiting? = some task.name := by
  simp only [waiting?, stage]

theorem waiting_of_evaluated {task : Task} (stage : task.stage ≠ .checking) :
    task.waiting? = none := by
  unfold waiting?
  split
  · contradiction
  · rfl

def Owed (evaluations : List (String × Verdict)) (task : Task) : Prop :=
  match task.stage with
  | .checking => True
  | .submitting _ => (task.name, .value ()) ∈ evaluations
  | .finished result => ∃ verdict, (task.name, verdict) ∈ evaluations ∧ result.States verdict

theorem Owed.mono {evaluations others : List (String × Verdict)} {task : Task}
    (owed : task.Owed evaluations) (more : evaluations ⊆ others) : task.Owed others := by
  unfold Owed at owed ⊢
  split
  · trivial
  · rename_i stage
    rw [stage] at owed
    exact more owed
  · rename_i stage
    rw [stage] at owed
    obtain ⟨verdict, member, states⟩ := owed
    exact ⟨verdict, more member, states⟩

end Task

namespace Run

def verdict (assignment : Assignment) (run : Run) (check : Check) : Verdict :=
  if run.cancelled then .failure .cancelled else check.decide assignment.image

def evaluation? (assignment : Assignment) (run : Run) (task : Task) : Option (String × Verdict) :=
  match task.stage with
  | .checking =>
    match run.verdict assignment task.registration.check with
    | .never => none
    | verdict => some (task.name, verdict)
  | _ => none

def evaluated (assignment : Assignment) (run : Run) : Event → List (String × Verdict)
  | .cancel => []
  | .advance name =>
    ((run.tasks.find? (·.name = name)).bind (run.evaluation? assignment)).toList

def evaluations (assignment : Assignment) : List Event → Run → List (String × Verdict)
  | [], _ => []
  | event :: rest, run =>
    run.evaluated assignment event ++ evaluations assignment rest (run.step assignment event)

def waiting (run : Run) : List String :=
  run.tasks.filterMap Task.waiting?

end Run

theorem Run.evaluation_spec {run : Run} {task : Task} {name : String} {verdict : Verdict}
    (evaluated : run.evaluation? assignment task = some (name, verdict)) :
    name = task.name ∧ verdict = run.verdict assignment task.registration.check := by
  unfold evaluation? at evaluated
  split at evaluated
  · split at evaluated
    · cases evaluated
    · cases evaluated
      exact ⟨rfl, rfl⟩
  · cases evaluated

theorem Assignment.passed_owed (name : String) (registration : Registration) :
    Task.Owed [(name, .value ())]
      { name, registration, stage := assignment.passed name registration } := by
  unfold passed
  split
  · split
    · exact List.mem_singleton_self _
    · exact ⟨_, List.mem_singleton_self _, rfl⟩
  · exact ⟨_, List.mem_singleton_self _, rfl⟩

theorem Assignment.passed_ne_checking (name : String) (registration : Registration) :
    assignment.passed name registration ≠ .checking := by
  unfold passed
  split
  · split <;> simp
  · simp

theorem Assignment.submitted_owed {evaluations : List (String × Verdict)} {name : String}
    (passed : (name, .value ()) ∈ evaluations) (registration : Registration)
    (attestation : SignedAttestation) (store : Store) :
    Task.Owed evaluations
      { name, registration, stage := (assignment.submitted name attestation store).1 } := by
  unfold submitted
  split
  · exact ⟨_, passed, rfl⟩
  · exact ⟨_, passed, rfl⟩
  · exact passed

theorem Assignment.submitted_ne_checking (name : String) (attestation : SignedAttestation)
    (store : Store) : (assignment.submitted name attestation store).1 ≠ .checking := by
  unfold submitted
  split <;> simp

theorem Advance.evaluation_cases {run : Run} {task : Task} {stage : Stage} {cancelled : Bool}
    {store : Store} (advance : Advance assignment run task stage cancelled store) :
    (∃ verdict, run.evaluation? assignment task = some (task.name, verdict) ∧
      task.stage = .checking ∧ stage ≠ .checking ∧
      { task with stage }.Owed [(task.name, verdict)]) ∨
    run.evaluation? assignment task = none ∧
      (task.stage = .checking ↔ stage = .checking) ∧
      ∀ evaluations, task.Owed evaluations → { task with stage }.Owed evaluations := by
  cases advance with
  | rest result stage =>
    refine .inr ⟨by simp only [Run.evaluation?, stage], by simp [stage], ?_⟩
    intro evaluations owed
    rw [Task.Owed, stage] at owed
    exact owed
  | stop stage cancelled =>
    refine .inl ⟨.failure .cancelled, ?_, stage, by simp, _, List.mem_singleton_self _, rfl⟩
    simp only [Run.evaluation?, stage, Run.verdict, cancelled, ↓reduceIte]
  | make stage cancelled =>
    have asked : run.verdict assignment task.registration.check =
        task.registration.check.decide assignment.image := by
      simp [Run.verdict, cancelled]
    unfold Assignment.made
    cases decided : task.registration.check.decide assignment.image with
    | never =>
      refine .inr ⟨by simp only [Run.evaluation?, stage, asked, decided], by simp [stage], ?_⟩
      intro evaluations _
      trivial
    | failure error =>
      refine .inl ⟨.failure error, ?_, stage, by simp, _, List.mem_singleton_self _, rfl⟩
      simp only [Run.evaluation?, stage, asked, decided]
    | value =>
      refine .inl ⟨.value (), ?_, stage, assignment.passed_ne_checking task.name task.registration,
        assignment.passed_owed ..⟩
      simp only [Run.evaluation?, stage, asked, decided]
  | withdraw attestation stage =>
    refine .inr ⟨by simp only [Run.evaluation?, stage], by simp [stage], ?_⟩
    intro evaluations owed
    rw [Task.Owed, stage] at owed
    exact ⟨_, owed, rfl⟩
  | submit attestation stage =>
    have later := assignment.submitted_ne_checking task.name attestation run.store
    refine .inr ⟨by simp only [Run.evaluation?, stage], by simp [stage, later], ?_⟩
    intro evaluations owed
    rw [Task.Owed, stage] at owed
    exact assignment.submitted_owed owed ..

namespace Run

theorem step_evaluated (assignment : Assignment) (run : Run) (event : Event) :
    (run.step assignment event).tasks = run.tasks ∧ run.evaluated assignment event = [] ∨
      ∃ before task after stage cancelled store, run.tasks = before ++ task :: after ∧
        Advance assignment run task stage cancelled store ∧
        run.step assignment event =
          { cancelled, store, tasks := before ++ { task with stage } :: after } ∧
        run.evaluated assignment event = (run.evaluation? assignment task).toList := by
  cases event with
  | cancel => exact .inl ⟨rfl, rfl⟩
  | advance name =>
    cases found : run.tasks.find? (·.name = name) with
    | none =>
      refine .inl ⟨?_, by simp only [evaluated, found, Option.bind_none, Option.toList_none]⟩
      simp only [step, advanceNamed_missing name run found]
    | some task =>
      obtain ⟨before, after, stage, cancelled, store, split, advance, made⟩ :=
        advanceNamed_found assignment name run found
      refine .inr ⟨before, task, after, stage, cancelled, store, split, advance, made, ?_⟩
      simp only [evaluated, found, Option.bind_some]

/-- Each check that has been waiting is evaluated or waits on. -/
theorem step_waiting (assignment : Assignment) (run : Run) (event : Event) :
    ((run.evaluated assignment event).map (·.1) ++ (run.step assignment event).waiting).Perm
      run.waiting := by
  rcases step_evaluated assignment run event with
    ⟨tasks, nothing⟩ | ⟨before, task, after, stage, cancelled, store, split, advance, made, noted⟩
  · simp only [nothing, waiting, tasks, List.map_nil, List.nil_append, List.Perm.refl]
  · simp only [waiting, made, noted, split, List.filterMap_append]
    rcases advance.evaluation_cases with
      ⟨verdict, evaluation, was, left, _⟩ | ⟨nothing, same, _⟩
    · rw [evaluation, List.filterMap_cons_none (Task.waiting_of_evaluated left),
        List.filterMap_cons_some (Task.waiting_of_checking was), Option.toList_some, List.map_singleton,
        List.singleton_append]
      exact List.perm_middle.symm
    · have waits : { task with stage }.waiting? = task.waiting? := by
        by_cases was : task.stage = .checking
        · rw [Task.waiting_of_checking was, Task.waiting_of_checking (same.mp was)]
        · rw [Task.waiting_of_evaluated was, Task.waiting_of_evaluated (mt same.mpr was)]
      simp only [nothing, Option.toList_none, List.map_nil, List.nil_append, List.filterMap_cons, waits,
        List.Perm.refl]

theorem follow_waiting (assignment : Assignment) (schedule : List Event) (run : Run) :
    ((run.evaluations assignment schedule).map (·.1) ++
      (run.follow assignment schedule).waiting).Perm run.waiting := by
  induction schedule generalizing run with
  | nil => exact List.Perm.refl _
  | cons event rest ih =>
    rw [evaluations, List.map_append, List.append_assoc]
    exact ((ih (run.step assignment event)).append_left _).trans (step_waiting assignment run event)

theorem step_owed {run : Run} {log : List (String × Verdict)} (event : Event)
    (owed : ∀ task ∈ run.tasks, task.Owed log) :
    ∀ task ∈ (run.step assignment event).tasks,
      task.Owed (log ++ run.evaluated assignment event) := by
  have earlier : log ⊆ log ++ run.evaluated assignment event := List.subset_append_left ..
  rcases step_evaluated assignment run event with
    ⟨tasks, _⟩ | ⟨before, moved, after, stage, cancelled, store, split, advance, made, noted⟩
  · rw [tasks]
    exact fun task member => (owed task member).mono earlier
  · rw [split] at owed
    rw [made]
    intro task member
    rcases List.mem_append.mp member with first | here
    · exact (owed task (List.mem_append_left _ first)).mono earlier
    · rcases List.mem_cons.mp here with rfl | last
      · rcases advance.evaluation_cases with ⟨verdict, evaluation, _, _, new⟩ | ⟨_, _, keeps⟩
        · refine new.mono ?_
          rw [noted, evaluation]
          exact List.subset_append_right ..
        · exact (keeps log (owed moved (by simp))).mono earlier
      · exact (owed task (List.mem_append_right _ (List.mem_cons_of_mem _ last))).mono earlier

theorem follow_owed (assignment : Assignment) {run : Run} {log : List (String × Verdict)}
    (schedule : List Event) (owed : ∀ task ∈ run.tasks, task.Owed log) :
    ∀ task ∈ (run.follow assignment schedule).tasks,
      task.Owed (log ++ run.evaluations assignment schedule) := by
  induction schedule generalizing run log with
  | nil =>
    rw [evaluations, List.append_nil]
    exact owed
  | cons event rest ih =>
    rw [evaluations, ← List.append_assoc]
    exact ih (step_owed event owed)

theorem evaluations_asked {selected : List (String × Registration)} {schedule : List Event} {run : Run}
    (keeping : Keeping assignment selected run) {name : String} {verdict : Verdict}
    (member : (name, verdict) ∈ run.evaluations assignment schedule) :
    ∃ registration, (name, registration) ∈ selected ∧
      (verdict = registration.check.decide assignment.image ∨
        verdict = .failure .cancelled ∧
          (run.follow assignment schedule).cancelled = true) := by
  induction schedule generalizing run with
  | nil => cases member
  | cons event rest ih =>
    rw [evaluations] at member
    rcases List.mem_append.mp member with first | later
    · rcases step_evaluated assignment run event with
        ⟨_, nothing⟩ | ⟨before, task, after, _, _, _, split, _, _, noted⟩
      · rw [nothing] at first
        cases first
      · rw [noted, Option.mem_toList] at first
        obtain ⟨rfl, rfl⟩ := evaluation_spec first
        have present : task ∈ run.tasks := by simp [split]
        have chosen := keeping.mem present
        refine ⟨task.registration, chosen, ?_⟩
        unfold Run.verdict
        split
        · rename_i cancelled
          exact .inr ⟨rfl, (follow_cancelled (event :: rest) cancelled).1⟩
        · exact .inl rfl
    · exact ih (step_keeping event keeping) later

theorem waiting_start (selected : List (String × Registration)) (cancelled : Bool) (store : Store) :
    (start selected cancelled store).waiting = selected.map (·.1) := by
  simp only [waiting, start, List.filterMap_map]
  induction selected with
  | nil => rfl
  | cons entry rest ih =>
    rw [List.map_cons, ← ih]
    rfl

theorem waiting_of_results {run : Run} {results : List CheckResult}
    (finished : run.results? = some results) : run.waiting = [] := by
  refine List.filterMap_eq_nil_iff.mpr fun task member => ?_
  obtain ⟨result, _, stage⟩ := exists_right_of_mem (results_finished finished) member
  exact Task.waiting_of_evaluated (by simp [stage])

end Run

namespace Engine

variable {selected : List (String × Registration)} {schedule : List Event} {cancelled : Bool}
  {store : Store} {outcome : RunOutcome}

/-- A run that comes to its end has evaluated each of its checks once, and no others. -/
theorem runBy_evaluated_once
    (ran : runBy assignment selected schedule cancelled store = some outcome) :
    (((Run.start selected cancelled store).evaluations assignment schedule).map (·.1)).Perm
      (selected.map (·.1)) := by
  obtain ⟨finished, _⟩ := runBy_last ran
  have account := Run.follow_waiting assignment schedule
    (Run.start selected cancelled store)
  rw [Run.waiting_of_results finished, List.append_nil, Run.waiting_start] at account
  exact account

theorem runBy_states
    (ran : runBy assignment selected schedule cancelled store = some outcome)
    {result : CheckResult} (member : result ∈ outcome.report.results) :
    ∃ registration verdict, (result.name, registration) ∈ selected ∧
      (result.name, verdict) ∈ (Run.start selected cancelled store).evaluations assignment schedule ∧
      result.States verdict ∧
      (verdict = registration.check.decide assignment.image ∨
        verdict = .failure .cancelled ∧ outcome.cancelled = true) := by
  obtain ⟨finished, _, left, _⟩ := runBy_last ran
  have begun := Run.start_keeping assignment selected cancelled store
  have keeping := Run.follow_keeping schedule begun
  obtain ⟨task, here, stage⟩ := exists_left_of_mem (Run.results_finished finished) member
  have unasked : ∀ task ∈ (Run.start selected cancelled store).tasks, task.Owed [] := by
    intro task member
    obtain ⟨entry, _, rfl⟩ := List.mem_map.mp member
    trivial
  have owed := Run.follow_owed assignment schedule unasked task here
  have ending := keeping.follows task here
  rw [Task.Owed, stage] at owed
  rw [Task.Follows, stage] at ending
  obtain ⟨verdict, evaluated, states⟩ := owed
  rw [List.nil_append, ← ending.name_eq] at evaluated
  obtain ⟨registration, chosen, asked⟩ := Run.evaluations_asked begun evaluated
  rw [← left] at asked
  exact ⟨registration, verdict, chosen, evaluated, states, asked⟩

end Engine

end Attestor
