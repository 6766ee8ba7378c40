import Attestor.Proofs.Engine.Cancellation
import Attestor.Proofs.Engine.Evaluations
import Attestor.Proofs.Text.ByteOrder

namespace Attestor

open Associations Results

structure Doings where
  evaluations : List (String × Verdict) := []
  store : Store

variable {assignment : Assignment}

namespace Run

def stepNoting (assignment : Assignment) (run : Run) (event : Event) : StateM Doings Run := do
  let next := run.step assignment event
  modify fun doings =>
    { evaluations := doings.evaluations ++ run.evaluated assignment event, store := next.store }
  return next

def followNoting (assignment : Assignment) (run : Run) (schedule : List Event) :
    StateM Doings Run :=
  schedule.foldlM (stepNoting assignment) run

theorem follow_noting (assignment : Assignment) (schedule : List Event) (run : Run)
    (doings : Doings) (same : doings.store = run.store) :
    (run.followNoting assignment schedule).run doings =
      (run.follow assignment schedule,
        { evaluations := doings.evaluations ++ run.evaluations assignment schedule
          store := (run.follow assignment schedule).store }) := by
  induction schedule generalizing run doings with
  | nil =>
    obtain ⟨before, store⟩ := doings
    obtain rfl : store = run.store := same
    rw [Run.evaluations, List.append_nil]
    rfl
  | cons event rest ih =>
    rw [followNoting, List.foldlM_cons, Run.evaluations, ← List.append_assoc]
    exact ih (run.step assignment event) _ rfl

end Run

namespace Engine

def perform (course : Course) (engine : Engine) (image : ImageReference) (names : List String)
    (now : Nat) (cancelled : Bool) : ExceptT Error (StateM Doings) (Option RunOutcome) := do
  let selected ← ExceptT.mk (pure (engine.select names))
  let first := Run.start selected cancelled (← get).store
  let last ← first.followNoting { engine, image, now } (course (selected.map (·.1)))
  return last.results?.map fun results =>
    { report := engine.report image results, cancelled := last.cancelled, store := last.store }

variable {engine : Engine} {course : Course} {image : ImageReference} {names others : List String}
  {now : Nat} {cancelled : Bool} {doings : Doings} {error : Error}
  {selected : List (String × Registration)}

theorem perform_refused (refused : engine.select names = .error error) :
    (engine.perform course image names now cancelled).run.run doings = (.error error, doings) := by
  unfold perform
  rw [refused]
  rfl

theorem perform_selected (chosen : engine.select names = .ok selected) :
    (engine.perform course image names now cancelled).run.run doings =
      let assignment : Assignment := { engine, image, now }
      let schedule := course (selected.map (·.1))
      let first := Run.start selected cancelled doings.store
      (.ok (runBy assignment selected schedule cancelled doings.store),
        { evaluations := doings.evaluations ++ first.evaluations assignment schedule
          store := (first.follow assignment schedule).store }) := by
  have followed := Run.follow_noting { engine, image, now }
    (course (selected.map (·.1))) (Run.start selected cancelled doings.store) doings rfl
  unfold perform
  rw [chosen]
  let finish (pair : Run × Doings) : Except Error (Option RunOutcome) × Doings :=
    (.ok (pair.1.results?.map fun results =>
      { report := engine.report image results, cancelled := pair.1.cancelled, store := pair.1.store }),
      pair.2)
  exact congrArg finish followed

/-- Among increasing names the first one that is not registered is the least. -/
theorem mapM_unregistered {checks : List (String × Registration)}
    (ordered : names.Pairwise (· < ·)) :
    (names.mapM fun name =>
      match checks.lookup name with
      | some registration => Except.ok (name, registration)
      | none => .error (Error.unknownCheck name)) = .error error ↔
    ∃ name ∈ names, name ∉ checks.map (·.1) ∧ error = .unknownCheck name ∧
      ∀ other ∈ names, other ∉ checks.map (·.1) → name ≤ other := by
  induction names with
  | nil =>
    constructor
    · intro h
      cases h
    · rintro ⟨name, member, _⟩
      cases member
  | cons first rest ih =>
    obtain ⟨least, tail⟩ := List.pairwise_cons.mp ordered
    rw [List.mapM_cons, bind_error_iff]
    cases found : checks.lookup first with
    | none =>
      have unregistered : first ∉ checks.map (·.1) := by
        intro member
        have present : (checks.lookup first).isSome := by
          simpa [List.lookup_isSome_iff] using member
        simp [found] at present
      constructor
      · rintro (refused | ⟨entry, passes, _⟩)
        · cases refused
          refine ⟨first, List.mem_cons_self .., unregistered, rfl, ?_⟩
          intro other member _
          rcases List.mem_cons.mp member with rfl | later
          · exact String.le_refl _
          · exact String.not_lt.mp (String.lt_asymm (least other later))
        · cases passes
      · rintro ⟨name, member, _, rfl, lowest⟩
        rcases List.mem_cons.mp member with rfl | later
        · exact .inl rfl
        · have atMost := lowest first (List.mem_cons_self ..) unregistered
          exact absurd (least name later) (String.not_lt.mpr atMost)
    | some registration =>
      have registered : first ∈ checks.map (·.1) := List.mem_map_of_mem (mem_of_lookup found)
      constructor
      · rintro (refused | ⟨entry, _, later⟩)
        · cases refused
        · rcases bind_error_iff.mp later with refused | ⟨_, _, made⟩
          · obtain ⟨name, member, missing, same, lowest⟩ := (ih tail).mp refused
            refine ⟨name, List.mem_cons_of_mem _ member, missing, same, ?_⟩
            intro other listed absent
            rcases List.mem_cons.mp listed with rfl | elsewhere
            · exact absurd registered absent
            · exact lowest other elsewhere absent
          · cases made
      · rintro ⟨name, member, missing, same, lowest⟩
        rcases List.mem_cons.mp member with rfl | later
        · exact absurd registered missing
        · have refused := (ih tail).mpr ⟨name, later, missing, same, fun other listed =>
            lowest other (List.mem_cons_of_mem _ listed)⟩
          exact .inr ⟨_, rfl, bind_error_iff.mpr (.inl refused)⟩

theorem select_error_iff :
    engine.select names = .error error ↔
      ∃ name ∈ names, name ∉ engine.names ∧ error = .unknownCheck name ∧
        ∀ other ∈ names, other ∉ engine.names → name ≤ other := by
  obtain ⟨ordered, members⟩ := distinct_spec names
  have refused : engine.select names = .error error ↔
      ∃ name ∈ distinct names, name ∉ engine.names ∧ error = .unknownCheck name ∧
        ∀ other ∈ distinct names, other ∉ engine.names → name ≤ other :=
    mapM_unregistered ordered
  simpa only [members] using refused

theorem distinct_congr (same : ∀ name, name ∈ others ↔ name ∈ names) :
    distinct others = distinct names := by
  obtain ⟨ordered, members⟩ := distinct_spec names
  obtain ⟨otherOrdered, otherMembers⟩ := distinct_spec others
  have perm : (distinct others).Perm (distinct names) := by
    refine (List.perm_ext_iff_of_nodup (nodup_of_ordered otherOrdered)
      (nodup_of_ordered ordered)).mpr fun name => ?_
    rw [members, otherMembers, same]
  refine perm.eq_of_pairwise ?_ otherOrdered ordered
  intro first second _ _ less greater
  exact absurd greater (String.lt_asymm less)

theorem select_unknown_iff :
    (∃ name, engine.select names = .error (.unknownCheck name)) ↔
      ∃ name ∈ names, name ∉ engine.names := by
  constructor
  · rintro ⟨unknown, refused⟩
    obtain ⟨name, member, missing, _⟩ := select_error_iff.mp refused
    exact ⟨name, member, missing⟩
  · rintro ⟨name, member, missing⟩
    cases chosen : engine.select names with
    | error error =>
      obtain ⟨unknown, _, _, rfl, _⟩ := select_error_iff.mp chosen
      exact ⟨unknown, rfl⟩
    | ok selected =>
      obtain ⟨same, registered⟩ := select_spec chosen
      rw [← (distinct_spec names).2, ← same] at member
      obtain ⟨entry, made, rfl⟩ := List.mem_map.mp member
      exact absurd (List.mem_map_of_mem (mem_of_lookup (registered entry made))) missing

theorem runChecksAlong_error_iff {store : Store} :
    engine.runChecksAlong course image names now cancelled store = .error error ↔
      engine.select names = .error error := by
  rw [runChecksAlong, bind_error_iff]
  constructor
  · rintro (refused | ⟨selected, _, made⟩)
    · exact refused
    · cases made
  · exact .inl

theorem runChecksAlong_ok_iff {store : Store} {ended : Option RunOutcome} :
    engine.runChecksAlong course image names now cancelled store = .ok ended ↔
      ∃ selected, engine.select names = .ok selected ∧
        runBy { engine, image, now } selected (course (selected.map (·.1))) cancelled store =
          ended := by
  simp only [runChecksAlong, bind_ok_iff, pure, Except.pure, Except.ok.injEq]

theorem perform_answer :
    ((engine.perform course image names now cancelled).run.run doings).1 =
      engine.runChecksAlong course image names now cancelled doings.store := by
  cases chosen : engine.select names with
  | error error =>
    rw [perform_refused chosen, runChecksAlong_error_iff.mpr chosen]
  | ok selected =>
    rw [perform_selected chosen, runChecksAlong_ok_iff.mpr ⟨selected, chosen, rfl⟩]

/-- The ways in which a schedule brings checks to their ends. -/
inductive Finishes (assignment : Assignment) (names : List String) (schedule : List Event)
    (cancelled : Bool) : Prop where
  | stopped (already : cancelled = true) (turns : Run.GivesTurns names schedule)
  | cancelled (before after : List Event) (split : schedule = before ++ .cancel :: after)
      (turns : Run.GivesTurns names after)
  | quiet (uncancelled : .cancel ∉ schedule) (turns : Run.GivesTurns names schedule)
      (alone : ∀ name ∈ names, ∃ registration,
        assignment.engine.checks.lookup name = some registration ∧
          assignment.EndsAlone name registration)

theorem runBy_cancelled {before after : List Event} (store : Store)
    (distinct : (selected.map (·.1)).Nodup) (turns : Run.GivesTurns (selected.map (·.1)) after) :
    ∃ outcome, runBy assignment selected (before ++ .cancel :: after) cancelled store =
      some outcome := by
  let reached := (Run.start selected cancelled store).follow assignment before
  have keeping : Run.Keeping assignment selected (reached.step assignment .cancel) :=
    Run.step_keeping _ (Run.follow_keeping before (Run.start_keeping ..))
  rw [← keeping.names] at distinct turns
  obtain ⟨results, finished⟩ : ∃ results,
      ((reached.step assignment .cancel).follow assignment after).results? = some results :=
    Run.follow_results_cancelled rfl distinct turns
  have last : (Run.start selected cancelled store).follow assignment (before ++ .cancel :: after) =
      (reached.step assignment .cancel).follow assignment after := by
    rw [Run.follow, List.foldl_append]
    rfl
  rw [← last] at finished
  exact ⟨_, by rw [runBy, finished]; rfl⟩

theorem Finishes.ends {schedule : List Event} (store : Store)
    (distinct : (selected.map (·.1)).Nodup)
    (registered : ∀ entry ∈ selected, assignment.engine.checks.lookup entry.1 = some entry.2)
    (finishes : Finishes assignment (selected.map (·.1)) schedule cancelled) :
    ∃ outcome, runBy assignment selected schedule cancelled store = some outcome := by
  cases finishes with
  | stopped already turns =>
    subst already
    exact runBy_ends_cancelled store distinct turns
  | cancelled before after split turns =>
    rw [split]
    exact runBy_cancelled store distinct turns
  | quiet uncancelled turns alone =>
    cases cancelled with
    | true => exact runBy_ends_cancelled store distinct turns
    | false =>
      have ends : ∀ entry ∈ selected, assignment.EndsAlone entry.1 entry.2 := by
        intro entry member
        obtain ⟨registration, found, ends⟩ := alone entry.1 (List.mem_map_of_mem member)
        rw [registered entry member] at found
        cases found
        exact ends
      obtain ⟨outcome, ran, _⟩ := runBy_ends store distinct turns uncancelled ends
      exact ⟨outcome, ran⟩

theorem runChecksAlong_names {store : Store} {outcome : RunOutcome}
    (answered : engine.runChecksAlong course image names now cancelled store = .ok (some outcome)) :
    outcome.report.results.map (·.name) = distinct names := by
  obtain ⟨selected, chosen, ran⟩ := runChecksAlong_ok_iff.mp answered
  exact (endings_names (runBy_endings ran)).trans (select_spec chosen).1

theorem runChecksAlong_ends {store : Store} (registered : ∀ name ∈ names, name ∈ engine.names)
    (finishes : Finishes { engine, image, now } (distinct names) (course (distinct names)) cancelled) :
    ∃ outcome,
      engine.runChecksAlong course image names now cancelled store = .ok (some outcome) := by
  cases chosen : engine.select names with
  | error error =>
    obtain ⟨name, member, missing, _⟩ := select_error_iff.mp chosen
    exact absurd (registered name member) missing
  | ok selected =>
    obtain ⟨same, held⟩ := select_spec chosen
    have once := nodup_of_ordered (distinct_spec names).1
    rw [← same] at finishes once
    obtain ⟨outcome, ran⟩ := finishes.ends store once held
    exact ⟨outcome, runChecksAlong_ok_iff.mpr ⟨selected, chosen, ran⟩⟩

/-- A request for named checks is refused exactly if a name is not registered, with the first such name
in the order of the bytes. The names alone decide that: nothing is evaluated or stored, whatever the
checks are. Else each of the named checks is evaluated once, and its result states what that came to.
Naming a check again, or in another place, changes nothing. -/
theorem named_checks_evaluated_once (engine : Engine) (course : Course) (image : ImageReference)
    (names : List String) (now : Nat) (cancelled : Bool) (doings : Doings) :
    let answer := engine.runChecksAlong course image names now cancelled doings.store
    let performed := (engine.perform course image names now cancelled).run.run doings
    performed.1 = answer ∧
    ((∃ name, answer = .error (.unknownCheck name)) ↔ ∃ name ∈ names, name ∉ engine.names) ∧
    (∀ error, answer = .error error →
      (∃ name ∈ names, name ∉ engine.names ∧ error = .unknownCheck name ∧
        ∀ other ∈ names, other ∉ engine.names → Text.encode name ≤ Text.encode other) ∧
      performed.2 = doings ∧
      ∀ other : Engine, other.names = engine.names → ∀ course image now cancelled doings,
        (other.perform course image names now cancelled).run.run doings = (.error error, doings)) ∧
    (∀ outcome, answer = .ok (some outcome) →
      (outcome.report.results.map fun result => Text.encode result.name).Pairwise (· < ·) ∧
      (∀ name, name ∈ outcome.report.results.map (·.name) ↔ name ∈ names) ∧
      performed.2.store = outcome.store ∧
      ∃ evaluations, performed.2.evaluations = doings.evaluations ++ evaluations ∧
        (evaluations.map (·.1)).Perm (outcome.report.results.map (·.name)) ∧
        ∀ result ∈ outcome.report.results, ∃ registration verdict,
          engine.checks.lookup result.name = some registration ∧
          (result.name, verdict) ∈ evaluations ∧ result.States verdict ∧
          (verdict = registration.check.decide image ∨
            verdict = .failure .cancelled ∧ outcome.cancelled = true)) ∧
    ((∀ name ∈ names, name ∈ engine.names) →
      Finishes { engine, image, now } (distinct names) (course (distinct names)) cancelled →
      ∃ outcome, answer = .ok (some outcome)) ∧
    ∀ others, (∀ name, name ∈ others ↔ name ∈ names) →
      engine.runChecksAlong course image others now cancelled doings.store = answer ∧
      (engine.perform course image others now cancelled).run.run doings = performed := by
  intro answer performed
  refine ⟨perform_answer, ?_, ?_, ?_, ?_, ?_⟩
  · simp only [answer, runChecksAlong_error_iff]
    exact select_unknown_iff
  · intro error answered
    have refused := runChecksAlong_error_iff.mp answered
    obtain ⟨name, member, missing, same, lowest⟩ := select_error_iff.mp refused
    refine ⟨⟨name, member, missing, same, ?_⟩, ?_, ?_⟩
    · intro other listed absent
      exact Text.encode_le_iff.mpr (lowest other listed absent)
    · simp only [performed, perform_refused refused]
    · intro other alike course image now cancelled doings
      refine perform_refused (select_error_iff.mpr ?_)
      rw [alike]
      exact ⟨name, member, missing, same, lowest⟩
  · intro outcome answered
    obtain ⟨selected, chosen, ran⟩ := runChecksAlong_ok_iff.mp answered
    obtain ⟨same, registered⟩ := select_spec chosen
    obtain ⟨ordered, members⟩ := distinct_spec names
    have named := runChecksAlong_names answered
    have done : performed.2 = _ := congrArg Prod.snd (perform_selected chosen)
    refine ⟨?_, ?_, ?_, _, by rw [done], ?_, ?_⟩
    · have increasing := ordered
      rw [← named, List.pairwise_map] at increasing
      exact List.pairwise_map.mpr (increasing.imp Text.encode_lt)
    · intro name
      rw [named, members]
    · rw [done]
      exact (runBy_last ran).2.1.symm
    · rw [named, ← same]
      exact runBy_evaluated_once ran
    · intro result member
      obtain ⟨registration, verdict, made, evaluated, states, asked⟩ := runBy_states ran member
      exact ⟨registration, verdict, registered _ made, evaluated, states, asked⟩
  · intro registered finishes
    exact runChecksAlong_ends registered finishes
  · intro others same
    have alike : engine.select others = engine.select names := by
      rw [select, select, distinct_congr same]
    simp only [answer, performed, perform, runChecksAlong, alike, and_self]

theorem named_checks_evaluated_once_hanging :
    let image : ImageReference := { name := "gcr.io/project/app", digest := "sha256:ab" }
    let course : Course := fun names => .advance "diy" :: .cancel :: Run.onOneThread names
    let doings : Doings := { store := {} }
    let performed := (hanging.perform course image ["org", "diy", "org"] 5 false).run.run doings
    (hanging.runChecksAlong course image ["zeta", "diy", "alpha"] 5 false {} =
        .error (.unknownCheck "alpha") ∧
      ((hanging.perform course image ["zeta", "diy", "alpha"] 5 false).run.run doings).2 = doings) ∧
    ∃ outcome,
      hanging.runChecksAlong course image ["org", "diy", "org"] 5 false {} = .ok (some outcome) ∧
      (∀ name, name ∈ outcome.report.results.map (·.name) ↔ name ∈ ["org", "diy", "org"]) ∧
      (performed.2.evaluations.map (·.1)).Perm (outcome.report.results.map (·.name)) ∧
      ∀ result ∈ outcome.report.results, ∃ verdict,
        (result.name, verdict) ∈ performed.2.evaluations ∧ result.States verdict := by
  intro image course doings performed
  constructor
  · obtain ⟨_, unknown, refusal, _⟩ := named_checks_evaluated_once hanging course image
      ["zeta", "diy", "alpha"] 5 false doings
    obtain ⟨name, refused⟩ := unknown.mpr ⟨"zeta", by simp, by decide⟩
    obtain ⟨⟨least, listed, missing, same, lowest⟩, untouched, _⟩ := refusal _ refused
    cases same
    have first := lowest "alpha" (by simp) (by decide)
    refine ⟨?_, untouched⟩
    simp only [List.mem_cons, List.not_mem_nil, or_false] at listed
    rcases listed with rfl | rfl | rfl
    · exact absurd first (by decide)
    · exact absurd (by decide) missing
    · exact refused
  · obtain ⟨_, _, _, answered, ends, _⟩ := named_checks_evaluated_once hanging course image
      ["org", "diy", "org"] 5 false doings
    obtain ⟨outcome, ran⟩ := ends (by decide)
      (.cancelled [.advance "diy"] _ rfl (Run.onOneThread_givesTurns _))
    obtain ⟨_, named, _, evaluations, whole, once, stated⟩ := answered outcome ran
    have same : performed.2.evaluations = evaluations := whole
    rw [same]
    refine ⟨outcome, ran, named, once, ?_⟩
    intro result member
    obtain ⟨_, verdict, _, evaluated, states, _⟩ := stated result member
    exact ⟨verdict, evaluated, states⟩

end Engine

end Attestor
