import Attestor.Engine.Run
import Mathlib.Data.List.Forall2

namespace Attestor

section

variable {α β : Type} {Related : α → β → Prop} {items : List α} {others : List β}

theorem exists_left_of_mem (related : List.Forall₂ Related items others) {other : β}
    (member : other ∈ others) : ∃ item ∈ items, Related item other := by
  induction related with
  | nil => cases member
  | cons first _ ih =>
    rcases List.mem_cons.mp member with rfl | later
    · exact ⟨_, List.mem_cons_self .., first⟩
    · obtain ⟨item, found, rest⟩ := ih later
      exact ⟨item, List.mem_cons_of_mem _ found, rest⟩

theorem exists_right_of_mem (related : List.Forall₂ Related items others) {item : α}
    (member : item ∈ items) : ∃ other ∈ others, Related item other :=
  exists_left_of_mem related.flip member

end

variable {assignment : Assignment}

/-- The ways in which a check under a name can end. -/
inductive Ending (assignment : Assignment) (name : String) (registration : Registration) :
    CheckResult → Prop where
  | stopped : Ending assignment name registration (.ofCheckError name .cancelled)
  | failed (error : CheckError)
      (decided : registration.check.decide assignment.image = .failure error) :
      Ending assignment name registration (.ofCheckError name error)
  | unasked (decided : registration.check.decide assignment.image = .value ())
      (asked : assignment.attests registration = false) :
      Ending assignment name registration (.passed name)
  | unsigned (error : Error) (decided : registration.check.decide assignment.image = .value ())
      (asked : assignment.attests registration = true) (signed : assignment.sign name = .error error) :
      Ending assignment name registration (.ofAttestError name error)
  | withdrawn (attestation : SignedAttestation)
      (decided : registration.check.decide assignment.image = .value ())
      (asked : assignment.attests registration = true)
      (signed : assignment.sign name = .ok attestation) :
      Ending assignment name registration (.ofAttestError name .cancelled)
  | refused (attestation : SignedAttestation) (store : Store) (error : MetadataError)
      (decided : registration.check.decide assignment.image = .value ())
      (asked : assignment.attests registration = true)
      (signed : assignment.sign name = .ok attestation)
      (answer : assignment.engine.metadata.submit assignment.image attestation store =
        .failure error) :
      Ending assignment name registration (.ofAttestError name (.metadata error))
  | stored (attestation record : SignedAttestation) (before after : Store)
      (decided : registration.check.decide assignment.image = .value ())
      (asked : assignment.attests registration = true)
      (signed : assignment.sign name = .ok attestation)
      (answer : assignment.engine.metadata.submit assignment.image attestation before =
        .value (record, after)) :
      Ending assignment name registration (.attestedBy name record)

def Task.Follows (assignment : Assignment) (task : Task) : Prop :=
  match task.stage with
  | .checking => True
  | .submitting attestation =>
    task.registration.check.decide assignment.image = .value () ∧
      assignment.attests task.registration = true ∧ assignment.sign task.name = .ok attestation
  | .finished result => Ending assignment task.name task.registration result

inductive Advance (assignment : Assignment) (run : Run) (task : Task) : Stage → Bool → Store → Prop where
  | rest (result : CheckResult) (stage : task.stage = .finished result) :
      Advance assignment run task (.finished result) run.cancelled run.store
  | stop (stage : task.stage = .checking) (cancelled : run.cancelled = true) :
      Advance assignment run task (.finished (.ofCheckError task.name .cancelled)) true run.store
  | make (stage : task.stage = .checking) (cancelled : run.cancelled = false) :
      Advance assignment run task (assignment.made task.name task.registration)
        task.registration.check.cancels run.store
  | withdraw (attestation : SignedAttestation) (stage : task.stage = .submitting attestation)
      (cancelled : run.cancelled = true) :
      Advance assignment run task (.finished (.ofAttestError task.name .cancelled)) true run.store
  | submit (attestation : SignedAttestation) (stage : task.stage = .submitting attestation)
      (cancelled : run.cancelled = false) :
      Advance assignment run task (assignment.submitted task.name attestation run.store).1 false
        (assignment.submitted task.name attestation run.store).2

theorem Assignment.made_follows (name : String) (registration : Registration) :
    Task.Follows assignment
      { name, registration, stage := assignment.made name registration } := by
  cases decided : registration.check.decide assignment.image with
  | never => simp [Task.Follows, made, decided]
  | failure error =>
    simp only [Task.Follows, made, decided]
    exact .failed error decided
  | value =>
    cases asked : assignment.attests registration with
    | false =>
      simp only [Task.Follows, made, decided, passed, asked, Bool.false_eq_true, ↓reduceIte]
      exact .unasked decided asked
    | true =>
      cases signed : assignment.sign name with
      | error error =>
        simp only [Task.Follows, made, decided, passed, asked, ↓reduceIte, signed]
        exact .unsigned error decided asked signed
      | ok attestation =>
        simp only [Task.Follows, made, decided, passed, asked, ↓reduceIte, signed]
        exact ⟨trivial, trivial, trivial⟩

theorem Assignment.submitted_follows (name : String) (registration : Registration)
    (attestation : SignedAttestation) (store : Store)
    (follows : Task.Follows assignment { name, registration, stage := .submitting attestation }) :
    Task.Follows assignment
      { name, registration, stage := (assignment.submitted name attestation store).1 } := by
  obtain ⟨decided, asked, signed⟩ := follows
  cases answer : assignment.engine.metadata.submit assignment.image attestation store with
  | never =>
    simp only [Task.Follows, submitted, answer]
    exact ⟨decided, asked, signed⟩
  | failure error =>
    simp only [Task.Follows, submitted, answer]
    exact .refused attestation store error decided asked signed answer
  | value pair =>
    obtain ⟨record, after⟩ := pair
    simp only [Task.Follows, submitted, answer]
    exact .stored attestation record store after decided asked signed answer

theorem Advance.follows {run : Run} {task : Task} {stage : Stage} {cancelled : Bool} {store : Store}
    (advance : Advance assignment run task stage cancelled store)
    (follows : task.Follows assignment) : Task.Follows assignment { task with stage } := by
  cases advance with
  | rest result stage =>
    rw [Task.Follows, stage] at follows
    exact follows
  | stop => exact Ending.stopped
  | make => exact Assignment.made_follows task.name task.registration
  | withdraw attestation stage =>
    rw [Task.Follows, stage] at follows
    obtain ⟨decided, asked, signed⟩ := follows
    exact .withdrawn attestation decided asked signed
  | submit attestation stage =>
    rw [Task.Follows, stage] at follows
    exact Assignment.submitted_follows task.name task.registration attestation run.store follows

namespace Run

theorem advance_cases (assignment : Assignment) (run : Run) (task : Task) :
    ∃ stage cancelled store, Advance assignment run task stage cancelled store ∧
      run.advance assignment task = ({ task with stage }, cancelled, store) := by
  obtain ⟨name, registration, stage⟩ := task
  cases stage with
  | finished result => exact ⟨_, _, _, .rest result rfl, rfl⟩
  | checking =>
    cases cancelled : run.cancelled with
    | true => exact ⟨_, _, _, .stop rfl cancelled, by simp [advance, cancelled]⟩
    | false => exact ⟨_, _, _, .make rfl cancelled, by simp [advance, cancelled]⟩
  | submitting attestation =>
    cases cancelled : run.cancelled with
    | true => exact ⟨_, _, _, .withdraw attestation rfl cancelled, by simp [advance, cancelled]⟩
    | false => exact ⟨_, _, _, .submit attestation rfl cancelled, by simp [advance, cancelled]⟩

theorem advanceNamed_found (assignment : Assignment) (name : String) (run : Run)
    {tasks : List Task} {task : Task} (found : tasks.find? (·.name = name) = some task) :
    ∃ before after stage cancelled store, tasks = before ++ task :: after ∧
      Advance assignment run task stage cancelled store ∧
      advanceNamed assignment name run tasks =
        { cancelled, store, tasks := before ++ { task with stage } :: after } := by
  obtain ⟨named, before, after, split, others⟩ := List.find?_eq_some_iff_append.mp found
  obtain ⟨stage, cancelled, store, advance, made⟩ := advance_cases assignment run task
  refine ⟨before, after, stage, cancelled, store, split, advance, ?_⟩
  clear found
  subst split
  induction before with
  | nil =>
    have named : task.name = name := of_decide_eq_true named
    simp only [List.nil_append, advanceNamed, named, ↓reduceIte, made]
  | cons first before ih =>
    have other : first.name ≠ name := by simpa using others first (List.mem_cons_self ..)
    have later := ih fun task member => others task (List.mem_cons_of_mem _ member)
    simp only [List.cons_append, advanceNamed, if_neg other, later]

theorem advanceNamed_missing (name : String) (run : Run) {tasks : List Task}
    (missing : tasks.find? (·.name = name) = none) :
    advanceNamed assignment name run tasks = { run with tasks } := by
  induction tasks with
  | nil => rfl
  | cons task rest ih =>
    obtain ⟨first, later⟩ := List.forall_mem_cons.mp (List.find?_eq_none.mp missing)
    have other : task.name ≠ name := by simpa using first
    simp only [advanceNamed, if_neg other, ih (List.find?_eq_none.mpr later)]

theorem advanceNamed_cases (assignment : Assignment) (name : String) (run : Run)
    (tasks : List Task) :
    advanceNamed assignment name run tasks = { run with tasks } ∨
      ∃ before task after stage cancelled store,
        tasks = before ++ task :: after ∧ Advance assignment run task stage cancelled store ∧
          advanceNamed assignment name run tasks =
            { cancelled, store, tasks := before ++ { task with stage } :: after } := by
  cases found : tasks.find? (·.name = name) with
  | none => exact .inl (advanceNamed_missing name run found)
  | some task =>
    obtain ⟨before, after, moved⟩ := advanceNamed_found assignment name run found
    exact .inr ⟨before, task, after, moved⟩

/-- What one event can do to a run. -/
theorem step_cases (assignment : Assignment) (run : Run) (event : Event) :
    ((run.step assignment event).tasks = run.tasks ∧ (run.step assignment event).store = run.store) ∨
      ∃ before task after stage cancelled store,
        run.tasks = before ++ task :: after ∧ Advance assignment run task stage cancelled store ∧
          run.step assignment event =
            { cancelled, store, tasks := before ++ { task with stage } :: after } := by
  cases event with
  | cancel => exact .inl ⟨rfl, rfl⟩
  | advance name =>
    rcases advanceNamed_cases assignment name run run.tasks with unchanged | moved
    · left
      simp only [step, unchanged, and_self]
    · exact .inr moved

/-- What holds of every check in a run still does after an event, if it does of the one that goes on. -/
theorem step_each {Holds : Task → Prop} {run : Run} {event : Event}
    (each : ∀ task ∈ run.tasks, Holds task)
    (moves : ∀ task ∈ run.tasks, ∀ stage cancelled store,
      Advance assignment run task stage cancelled store →
        (run.step assignment event).cancelled = cancelled → Holds { task with stage }) :
    ∀ task ∈ (run.step assignment event).tasks, Holds task := by
  rcases step_cases assignment run event with
    ⟨tasks, _⟩ | ⟨before, moved, after, stage, cancelled, store, split, advance, made⟩
  · rw [tasks]
    exact each
  · rw [made] at moves ⊢
    intro task member
    have others : task ∈ before ∨ task ∈ after → task ∈ run.tasks := by
      rw [split]
      rintro (earlier | later)
      · exact List.mem_append_left _ earlier
      · exact List.mem_append_right _ (List.mem_cons_of_mem _ later)
    rcases List.mem_append.mp member with earlier | here
    · exact each task (others (.inl earlier))
    · rcases List.mem_cons.mp here with rfl | later
      · exact moves moved (by simp [split]) stage cancelled store advance rfl
      · exact each task (others (.inr later))

theorem follow_preserves (Keeps : Run → Prop) (schedule : List Event) (run : Run)
    (step : ∀ run event, Keeps run → Keeps (run.step assignment event)) (first : Keeps run) :
    Keeps (run.follow assignment schedule) := by
  induction schedule generalizing run with
  | nil => exact first
  | cons event rest ih => exact ih (run.step assignment event) (step run event first)

/-- A run makes the selected checks and no others, and every one of them stands where it can have
got to. -/
structure Keeping (assignment : Assignment) (selected : List (String × Registration)) (run : Run) :
    Prop where
  selected : run.tasks.map (fun task => (task.name, task.registration)) = selected
  follows : ∀ task ∈ run.tasks, task.Follows assignment

theorem start_keeping (assignment : Assignment) (selected : List (String × Registration))
    (cancelled : Bool) (store : Store) :
    Keeping assignment selected (start selected cancelled store) := by
  constructor
  · simp [start, Function.comp_def]
  · intro task member
    obtain ⟨entry, _, rfl⟩ := List.mem_map.mp member
    trivial

theorem step_keeping {selected : List (String × Registration)} {run : Run} (event : Event)
    (keeping : Keeping assignment selected run) :
    Keeping assignment selected (run.step assignment event) := by
  obtain ⟨same, follows⟩ := keeping
  constructor
  · rw [← same]
    rcases step_cases assignment run event with
      ⟨tasks, _⟩ | ⟨before, moved, after, stage, cancelled, store, split, _, made⟩
    · rw [tasks]
    · rw [made, split]
      simp
  · refine step_each follows ?_
    intro task member stage cancelled store advance _
    exact advance.follows (follows task member)

theorem follow_keeping {selected : List (String × Registration)} (schedule : List Event) {run : Run}
    (keeping : Keeping assignment selected run) :
    Keeping assignment selected (run.follow assignment schedule) :=
  follow_preserves _ schedule run (fun _ event keeps => step_keeping event keeps) keeping

theorem results_finished {run : Run} {results : List CheckResult}
    (finished : run.results? = some results) :
    List.Forall₂ (fun task result => task.stage = .finished result) run.tasks results := by
  obtain ⟨cancelled, store, tasks⟩ := run
  simp only [results?] at finished
  induction tasks generalizing results with
  | nil =>
    cases finished
    exact .nil
  | cons task rest ih =>
    rw [List.mapM_cons] at finished
    cases stage : task.stage with
    | checking => simp [stage] at finished
    | submitting attestation => simp [stage] at finished
    | finished result =>
      simp only [stage, Option.bind_eq_bind, Option.bind_some, Option.bind_eq_some_iff] at finished
      obtain ⟨later, found, same⟩ := finished
      cases same
      exact .cons stage (ih found)

theorem results_each {run : Run} {results : List CheckResult}
    {Holds : String → Registration → CheckResult → Prop} (finished : run.results? = some results)
    (each : ∀ task ∈ run.tasks, ∀ result, task.stage = .finished result →
      Holds task.name task.registration result) :
    List.Forall₂ (fun entry result => Holds entry.1 entry.2 result)
      (run.tasks.map fun task => (task.name, task.registration)) results := by
  rw [List.forall₂_map_left_iff]
  have stages := results_finished finished
  refine List.Forall₂.imp ?_ ((List.forall₂_and_left _ _).mpr ⟨each, stages⟩)
  intro task result given
  exact given.1 result given.2

end Run

namespace Engine

variable {selected : List (String × Registration)} {schedule : List Event} {cancelled : Bool}
  {store : Store} {outcome : RunOutcome}

theorem runBy_last (h : runBy assignment selected schedule cancelled store = some outcome) :
    let last := (Run.start selected cancelled store).follow assignment schedule
    last.results? = some outcome.report.results ∧ outcome.store = last.store ∧
      outcome.cancelled = last.cancelled ∧
      outcome.report = assignment.engine.report assignment.image outcome.report.results := by
  obtain ⟨results, finished, rfl⟩ := Option.map_eq_some_iff.mp h
  exact ⟨finished, rfl, rfl, rfl⟩

/-- A run has one result for each selected check, in the order of the selection, and each is an
ending of its check. -/
theorem runBy_endings (h : runBy assignment selected schedule cancelled store = some outcome) :
    List.Forall₂ (fun entry result => Ending assignment entry.1 entry.2 result) selected
      outcome.report.results := by
  obtain ⟨finished, _⟩ := runBy_last h
  have keeping := Run.follow_keeping schedule
    (Run.start_keeping assignment selected cancelled store)
  rw [← keeping.selected]
  refine Run.results_each finished ?_
  intro task member result stage
  have follows := keeping.follows task member
  rw [Task.Follows, stage] at follows
  exact follows

end Engine

end Attestor
