import Attestor.Proofs.Engine.Alone

namespace Attestor

variable {assignment : Assignment}

def Stage.turnsLeft : Stage → Nat
  | .checking => 2
  | .submitting _ => 1
  | .finished _ => 0

theorem Stage.finished_of_turnsLeft {stage : Stage} (none : stage.turnsLeft = 0) :
    ∃ result, stage = .finished result := by
  cases stage with
  | checking => cases none
  | submitting => cases none
  | finished result => exact ⟨result, rfl⟩

namespace Run

/-- Every one of the checks gets the turns that it may need. -/
def GivesTurns (names : List String) (schedule : List Event) : Prop :=
  ∀ name ∈ names, 2 ≤ schedule.count (.advance name)

theorem inTurn_count {names : List String} {name : String} (member : name ∈ names) :
    2 ≤ (inTurn names).count (.advance name) := by
  induction names with
  | nil => cases member
  | cons first rest ih =>
    have split : inTurn (first :: rest) = [.advance first, .advance first] ++ inTurn rest := rfl
    rw [split, List.count_append]
    rcases List.mem_cons.mp member with rfl | later
    · simp
    · have more := ih later
      omega

theorem onOneThread_givesTurns (names : List String) : GivesTurns names (onOneThread names) := by
  intro name member
  have turns := inTurn_count member
  rw [onOneThread, List.count_append]
  omega

theorem onOneThread_uncancelled (names : List String) : Event.cancel ∉ onOneThread names := by
  simp [onOneThread, inTurn]

theorem advance_name (run : Run) (task : Task) :
    (run.advance assignment task).1.name = task.name := by
  obtain ⟨stage, cancelled, store, _, made⟩ := advance_cases assignment run task
  rw [made]

theorem advanceNamed_tasks (name : String) (run : Run) (tasks : List Task)
    (distinct : (tasks.map (·.name)).Nodup) :
    (advanceNamed assignment name run tasks).tasks =
      tasks.map fun task => if task.name = name then (run.advance assignment task).1 else task := by
  induction tasks with
  | nil => rfl
  | cons task rest ih =>
    obtain ⟨fresh, later⟩ := List.nodup_cons.mp distinct
    by_cases named : task.name = name
    · have others : (rest.map fun task =>
          if task.name = name then (run.advance assignment task).1 else task) = rest := by
        refine (List.map_congr_left fun other member => ?_).trans (List.map_id _)
        refine if_neg fun same => fresh ?_
        have listed : other.name ∈ rest.map (·.name) := List.mem_map_of_mem member
        rw [same, ← named] at listed
        exact listed
      simp only [advanceNamed, named, ↓reduceIte, List.map_cons, others]
    · simp only [advanceNamed, named, ↓reduceIte, List.map_cons, ih later]

theorem step_tasks (name : String) {run : Run} (distinct : (run.tasks.map (·.name)).Nodup) :
    (run.step assignment (.advance name)).tasks =
      run.tasks.map fun task =>
        if task.name = name then (run.advance assignment task).1 else task :=
  advanceNamed_tasks name run run.tasks distinct

theorem step_names (event : Event) {run : Run} (distinct : (run.tasks.map (·.name)).Nodup) :
    (run.step assignment event).tasks.map (·.name) = run.tasks.map (·.name) := by
  cases event with
  | cancel => rfl
  | advance name =>
    rw [step_tasks name distinct, List.map_map]
    refine List.map_congr_left fun task _ => ?_
    simp only [Function.comp_apply]
    split
    · exact advance_name run task
    · rfl

/-- Each turn of a check lowers how many it may still need, as long as `Holds` ensures that a turn is
used. -/
theorem follow_turnsLeft (Holds : Run → Prop) (schedule : List Event) (run : Run)
    (limit : String → Nat) (distinct : (run.tasks.map (·.name)).Nodup)
    (keeps : ∀ run, ∀ event ∈ schedule, Holds run → Holds (run.step assignment event))
    (turn : ∀ run, Holds run → ∀ task ∈ run.tasks,
      (run.advance assignment task).1.stage.turnsLeft ≤ task.stage.turnsLeft - 1)
    (holds : Holds run) (within : ∀ task ∈ run.tasks, task.stage.turnsLeft ≤ limit task.name) :
    ∀ task ∈ (run.follow assignment schedule).tasks,
      task.stage.turnsLeft ≤ limit task.name - schedule.count (.advance task.name) := by
  induction schedule generalizing run limit with
  | nil => exact within
  | cons event rest ih =>
    let next (name : String) : Nat := limit name - if event = .advance name then 1 else 0
    have stepped : ∀ task ∈ (run.step assignment event).tasks,
        task.stage.turnsLeft ≤ next task.name := by
      cases event with
      | cancel => simpa [next, step] using within
      | advance name =>
        rw [step_tasks name distinct]
        intro task member
        obtain ⟨before, was, rfl⟩ := List.mem_map.mp member
        have bound := within before was
        by_cases named : before.name = name
        · have less := turn run holds before was
          have lower : next name = limit name - 1 := by simp [next]
          rw [if_pos named, advance_name, named, lower]
          rw [named] at bound
          omega
        · have other : Event.advance name ≠ .advance before.name := by
            intro same
            cases same
            exact named rfl
          simp only [if_neg named, next, if_neg other]
          exact bound
    have later := ih (run.step assignment event) next (by rw [step_names event distinct]; exact distinct)
      (fun run other member => keeps run other (List.mem_cons_of_mem _ member))
      (keeps run event (List.mem_cons_self ..) holds) stepped
    intro task member
    have bound := later task member
    by_cases named : event = .advance task.name
    · subst named
      simp only [next, if_pos trivial] at bound
      rw [List.count_cons_self]
      omega
    · simp only [next, if_neg named] at bound
      rw [List.count_cons_of_ne named]
      exact bound

theorem results_of_turnsLeft {run : Run} (none : ∀ task ∈ run.tasks, task.stage.turnsLeft = 0) :
    ∃ results, run.results? = some results := by
  obtain ⟨cancelled, store, tasks⟩ := run
  simp only [results?] at none ⊢
  induction tasks with
  | nil => exact ⟨[], rfl⟩
  | cons task rest ih =>
    obtain ⟨results, found⟩ := ih fun other member => none other (List.mem_cons_of_mem _ member)
    obtain ⟨result, finished⟩ := Stage.finished_of_turnsLeft (none task (List.mem_cons_self ..))
    exact ⟨result :: results, by simp [List.mapM_cons, finished, found]⟩

/-- A run in which every check gets its turns comes to its end, if no turn is lost with waiting. -/
theorem follow_results (Holds : Run → Prop) {schedule : List Event} {run : Run}
    (distinct : (run.tasks.map (·.name)).Nodup)
    (turns : GivesTurns (run.tasks.map (·.name)) schedule)
    (keeps : ∀ run, ∀ event ∈ schedule, Holds run → Holds (run.step assignment event))
    (turn : ∀ run, Holds run → ∀ task ∈ run.tasks,
      (run.advance assignment task).1.stage.turnsLeft ≤ task.stage.turnsLeft - 1)
    (holds : Holds run) : ∃ results, (run.follow assignment schedule).results? = some results := by
  have names : (run.follow assignment schedule).tasks.map (·.name) = run.tasks.map (·.name) := by
    refine follow_preserves (fun later => later.tasks.map (·.name) = run.tasks.map (·.name)) schedule
      run ?_ rfl
    intro later event same
    rw [step_names event (by rw [same]; exact distinct), same]
  have atMostTwo : ∀ task ∈ run.tasks, task.stage.turnsLeft ≤ 2 := by
    intro task _
    cases task.stage <;> simp [Stage.turnsLeft]
  have left := follow_turnsLeft Holds schedule run (fun _ => 2) distinct keeps turn holds atMostTwo
  refine results_of_turnsLeft fun task member => ?_
  have given : task.name ∈ run.tasks.map (·.name) := by
    rw [← names]
    exact List.mem_map_of_mem member
  have enough := turns task.name given
  have bound := left task member
  omega

theorem follow_results_cancelled {schedule : List Event} {run : Run}
    (cancelled : run.cancelled = true) (distinct : (run.tasks.map (·.name)).Nodup)
    (turns : GivesTurns (run.tasks.map (·.name)) schedule) :
    ∃ results, (run.follow assignment schedule).results? = some results := by
  refine follow_results (fun run => run.cancelled = true) distinct turns ?_ ?_ cancelled
  · intro run event _ before
    exact (step_cancelled event before).1
  · intro run cancelled task _
    obtain ⟨stage, _, _, advance, made⟩ := advance_cases assignment run task
    rw [made]
    cases advance with
    | rest => simp [Stage.turnsLeft]
    | stop => simp [Stage.turnsLeft]
    | make stage quiet => simp [cancelled] at quiet
    | withdraw => simp [Stage.turnsLeft]
    | submit attestation stage quiet => simp [cancelled] at quiet

end Run

/-- A check comes to an end by itself, and leaves the run that it is part of alone. -/
structure Assignment.EndsAlone (assignment : Assignment) (name : String)
    (registration : Registration) : Prop where
  leaves : registration.check.cancels = false
  ends : ∀ store, (assignment.alone? name registration store).isSome = true

theorem Advance.uses_turn {run : Run} {task : Task} {stage : Stage} {cancelled : Bool} {store : Store}
    (advance : Advance assignment run task stage cancelled store) (quiet : run.cancelled = false)
    (follows : task.Follows assignment) (alone : assignment.EndsAlone task.name task.registration) :
    cancelled = false ∧ stage.turnsLeft ≤ task.stage.turnsLeft - 1 := by
  have ends := alone.ends run.store
  cases advance with
  | rest => exact ⟨quiet, by simp [Stage.turnsLeft]⟩
  | stop stage cancelled => simp [quiet] at cancelled
  | withdraw attestation stage cancelled => simp [quiet] at cancelled
  | make stage =>
    refine ⟨alone.leaves, ?_⟩
    rw [stage]
    cases made : assignment.made task.name task.registration with
    | checking => simp [Assignment.alone?, made, Stage.result?] at ends
    | submitting => simp [Stage.turnsLeft]
    | finished => simp [Stage.turnsLeft]
  | submit attestation stage =>
    refine ⟨rfl, ?_⟩
    rw [Task.Follows, stage] at follows
    obtain ⟨decided, asked, signed⟩ := follows
    rw [Assignment.alone_submitted (Assignment.made_submitting decided asked signed)] at ends
    cases submitted : (assignment.submitted task.name attestation run.store).1 with
    | checking => simp [submitted, Stage.result?] at ends
    | submitting => simp [submitted, Stage.result?] at ends
    | finished => simp [Stage.turnsLeft]

namespace Run

variable {selected : List (String × Registration)}

theorem Keeping.mem {run : Run} (keeping : Keeping assignment selected run) {task : Task}
    (member : task ∈ run.tasks) : (task.name, task.registration) ∈ selected := by
  rw [← keeping.selected]
  exact List.mem_map_of_mem member

theorem Keeping.names {run : Run} (keeping : Keeping assignment selected run) :
    run.tasks.map (·.name) = selected.map (·.1) := by
  rw [← keeping.selected, List.map_map]
  rfl

theorem step_uncancelled {run : Run} {event : Event} (keeping : Keeping assignment selected run)
    (quiet : run.cancelled = false) (uncancelled : event ≠ .cancel)
    (alone : ∀ entry ∈ selected, assignment.EndsAlone entry.1 entry.2) :
    (run.step assignment event).cancelled = false := by
  cases event with
  | cancel => exact absurd rfl uncancelled
  | advance name =>
    rcases advanceNamed_cases assignment name run run.tasks with
      unchanged | ⟨_, task, _, stage, cancelled, store, split, advance, made⟩
    · simp only [step, unchanged]
      exact quiet
    · have member : task ∈ run.tasks := by rw [split]; simp
      simp only [step, made]
      exact (advance.uses_turn quiet (keeping.follows task member)
        (alone _ (keeping.mem member))).1

theorem follow_results_quiet {schedule : List Event} {run : Run}
    (keeping : Keeping assignment selected run) (quiet : run.cancelled = false)
    (distinct : (selected.map (·.1)).Nodup) (turns : GivesTurns (selected.map (·.1)) schedule)
    (uncancelled : .cancel ∉ schedule)
    (alone : ∀ entry ∈ selected, assignment.EndsAlone entry.1 entry.2) :
    ∃ results, (run.follow assignment schedule).results? = some results ∧
      (run.follow assignment schedule).cancelled = false := by
  let Holds (run : Run) : Prop := Keeping assignment selected run ∧ run.cancelled = false
  have keeps : ∀ run, ∀ event ∈ schedule, Holds run → Holds (run.step assignment event) := by
    intro run event member holds
    refine ⟨step_keeping event holds.1, step_uncancelled holds.1 holds.2 ?_ alone⟩
    intro same
    exact uncancelled (same ▸ member)
  have turn : ∀ run, Holds run → ∀ task ∈ run.tasks,
      (run.advance assignment task).1.stage.turnsLeft ≤ task.stage.turnsLeft - 1 := by
    intro run holds task member
    obtain ⟨stage, _, _, advance, made⟩ := advance_cases assignment run task
    rw [made]
    exact (advance.uses_turn holds.2 (holds.1.follows task member)
      (alone _ (holds.1.mem member))).2
  have last : Holds (run.follow assignment schedule) :=
    List.foldlRecOn schedule (step assignment) ⟨keeping, quiet⟩
      fun run holds event member => keeps run event member holds
  rw [← keeping.names] at distinct turns
  obtain ⟨results, finished⟩ := follow_results Holds distinct turns keeps turn ⟨keeping, quiet⟩
  exact ⟨results, finished, last.2⟩

end Run

namespace Engine

variable {selected : List (String × Registration)} {schedule : List Event}

theorem runBy_ends_cancelled (store : Store) (distinct : (selected.map (·.1)).Nodup)
    (turns : Run.GivesTurns (selected.map (·.1)) schedule) :
    ∃ outcome, runBy assignment selected schedule true store = some outcome := by
  have keeping := Run.start_keeping assignment selected true store
  rw [← keeping.names] at distinct turns
  obtain ⟨results, finished⟩ := Run.follow_results_cancelled rfl distinct turns
  exact ⟨_, by rw [runBy, finished]; rfl⟩

theorem runBy_ends (store : Store) (distinct : (selected.map (·.1)).Nodup)
    (turns : Run.GivesTurns (selected.map (·.1)) schedule) (uncancelled : .cancel ∉ schedule)
    (alone : ∀ entry ∈ selected, assignment.EndsAlone entry.1 entry.2) :
    ∃ outcome, runBy assignment selected schedule false store = some outcome ∧
      outcome.cancelled = false := by
  have keeping := Run.start_keeping assignment selected false store
  obtain ⟨results, finished, quiet⟩ :=
    Run.follow_results_quiet keeping rfl distinct turns uncancelled alone
  exact ⟨_, by rw [runBy, finished]; rfl, quiet⟩

end Engine

end Attestor
