import Attestor.Proofs.Engine.Ledger

namespace Attestor

open Associations Results

inductive Request where
  | all
  | named (names : List String)

namespace Engine

def requested (engine : Engine) : Request → List String
  | .all => engine.names
  | .named names => distinct names

theorem requested_named_singleton (engine : Engine) (name : String) :
    engine.requested (.named [name]) = [name] := by
  simp [requested, distinct, List.eraseReps, List.eraseRepsBy, List.eraseRepsBy.loop]

def selection (engine : Engine) : Request → Except Error (List (String × Registration))
  | .all => .ok engine.checks
  | .named names => engine.select names

def answer (engine : Engine) (request : Request) (course : Course) (image : ImageReference)
    (now : Nat) (cancelled : Bool) (store : Store) : Except Error (Option RunOutcome) :=
  match request with
  | .all => .ok (engine.runAlong course image now cancelled store)
  | .named names => engine.runChecksAlong course image names now cancelled store

variable {engine : Engine} {request : Request} {course : Course} {image : ImageReference}
  {now : Nat} {cancelled : Bool} {store : Store} {selected : List (String × Registration)}

structure Selects (engine : Engine) (request : Request) (selected : List (String × Registration)) :
    Prop where
  names : selected.map (·.1) = engine.requested request
  ordered : (selected.map (·.1)).Pairwise (· < ·)
  registered : ∀ entry ∈ selected, engine.checks.lookup entry.1 = some entry.2

theorem requested_ordered (ordered : engine.names.Pairwise (· < ·)) (request : Request) :
    (engine.requested request).Pairwise (· < ·) := by
  cases request with
  | all => exact ordered
  | named names => exact (distinct_spec names).1

theorem selection_selects (ordered : engine.names.Pairwise (· < ·))
    (h : engine.selection request = .ok selected) : engine.Selects request selected := by
  cases request with
  | all =>
    cases h
    refine ⟨rfl, ordered, ?_⟩
    intro entry member
    exact lookup_of_mem (nodup_of_ordered ordered) member
  | named names =>
    obtain ⟨same, registered⟩ := select_spec h
    refine ⟨same, ?_, registered⟩
    rw [same]
    exact requested_ordered ordered (.named names)

theorem answer_eq :
    engine.answer request course image now cancelled store =
      (engine.selection request).map fun selected =>
        runBy { engine, image, now } selected (course (selected.map (·.1))) cancelled store := by
  cases request with
  | all => rfl
  | named names =>
    simp only [answer, runChecksAlong, selection]
    cases engine.select names <;> rfl

theorem exists_answer {answer : Except Error (Option RunOutcome)} (Holds : RunOutcome → Prop)
    [DecidablePred Holds]
    (found : answer.toOption.any (·.any fun outcome => decide (Holds outcome)) = true) :
    ∃ outcome, answer = .ok (some outcome) ∧ Holds outcome := by
  cases answer with
  | error error => cases found
  | ok ended =>
    have found : ended.any (fun outcome => decide (Holds outcome)) = true := found
    obtain ⟨outcome, rfl, holds⟩ := (Option.any_eq_true _ _).mp found
    exact ⟨outcome, rfl, of_decide_eq_true holds⟩

theorem answer_report {outcome : RunOutcome} (ordered : engine.names.Pairwise (· < ·))
    (h : engine.answer request course image now cancelled store = .ok (some outcome)) :
    ∃ selected, engine.Selects request selected ∧
      runBy { engine, image, now } selected (course (engine.requested request)) cancelled store =
        some outcome := by
  rw [answer_eq] at h
  cases chosen : engine.selection request with
  | error error =>
    rw [chosen] at h
    cases h
  | ok selected =>
    rw [chosen] at h
    have selects := selection_selects ordered chosen
    refine ⟨selected, selects, ?_⟩
    rw [← selects.names]
    exact Except.ok.inj h

theorem answer_names {outcome : RunOutcome} (ordered : engine.names.Pairwise (· < ·))
    (answered : engine.answer request course image now cancelled store = .ok (some outcome)) :
    outcome.report.results.map (·.name) = engine.requested request := by
  obtain ⟨selected, selects, ran⟩ := answer_report ordered answered
  exact (endings_names (runBy_endings ran)).trans selects.names

theorem answer_whole {outcome : RunOutcome} (ordered : engine.names.Pairwise (· < ·))
    (answered : engine.answer request course image now cancelled store = .ok (some outcome)) :
    outcome.report = engine.report image outcome.report.results := by
  obtain ⟨selected, _, ran⟩ := answer_report ordered answered
  obtain ⟨_, _, _, whole⟩ := runBy_last ran
  exact whole

theorem mapM_registered {checks : List (String × Registration)} {names : List String}
    (registered : ∀ name ∈ names, name ∈ checks.map (·.1)) :
    ∃ selected, (names.mapM fun name =>
      match checks.lookup name with
      | some registration => Except.ok (name, registration)
      | none => .error (Error.unknownCheck name)) = .ok selected := by
  induction names with
  | nil => exact ⟨[], rfl⟩
  | cons name rest ih =>
    obtain ⟨later, found⟩ := ih fun other member => registered other (List.mem_cons_of_mem _ member)
    have present : (checks.lookup name).isSome := by
      simpa [List.lookup_isSome_iff] using registered name (List.mem_cons_self ..)
    obtain ⟨registration, first⟩ := Option.isSome_iff_exists.mp present
    refine ⟨(name, registration) :: later, ?_⟩
    rw [List.mapM_cons]
    exact bind_ok_iff.mpr ⟨_, by rw [first], bind_ok_iff.mpr ⟨later, found, rfl⟩⟩

theorem answer_registered (ordered : engine.names.Pairwise (· < ·))
    (registered : ∀ name ∈ engine.requested request, name ∈ engine.names) :
    ∃ selected, engine.Selects request selected ∧ ∀ course image now cancelled store,
      engine.answer request course image now cancelled store =
        .ok (runBy { engine, image, now } selected (course (engine.requested request)) cancelled
          store) := by
  have chosen : ∃ selected, engine.selection request = .ok selected := by
    cases request with
    | all => exact ⟨_, rfl⟩
    | named names => exact mapM_registered registered
  obtain ⟨selected, chosen⟩ := chosen
  have selects := selection_selects ordered chosen
  refine ⟨selected, selects, ?_⟩
  intro course image now cancelled store
  rw [answer_eq, chosen, ← selects.names]
  rfl

end Engine

end Attestor
