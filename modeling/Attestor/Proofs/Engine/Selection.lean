import Attestor.Engine.Run
import Attestor.Proofs.Engine.Construction

namespace Attestor.Engine

open Associations Results

theorem eraseReps_loop_ordered (first : String) (rest held : List String)
    (ordered : (first :: rest).Pairwise (· ≤ ·)) :
    ∃ kept, List.eraseRepsBy.loop (· == ·) first rest held = held.reverse ++ first :: kept ∧
      (first :: kept).Pairwise (· < ·) ∧ ∀ name, name ∈ first :: kept ↔ name ∈ first :: rest := by
  induction rest generalizing first held with
  | nil => exact ⟨[], by simp [List.eraseRepsBy.loop]⟩
  | cons second rest ih =>
    obtain ⟨least, tail⟩ := List.pairwise_cons.mp ordered
    by_cases same : first = second
    · subst same
      obtain ⟨kept, erased, increasing, members⟩ := ih first held tail
      refine ⟨kept, ?_, increasing, ?_⟩
      · simp only [List.eraseRepsBy.loop, beq_self_eq_true, erased]
      · intro name
        rw [members]
        simp
    · obtain ⟨kept, erased, increasing, members⟩ := ih second (first :: held) tail
      refine ⟨second :: kept, ?_, ?_, ?_⟩
      · simp only [List.eraseRepsBy.loop, beq_eq_false_iff_ne.mpr same, erased,
          List.reverse_cons, List.append_assoc, List.singleton_append]
      · refine List.pairwise_cons.mpr ⟨?_, increasing⟩
        have less : first < second := by
          have atMost := least second (List.mem_cons_self ..)
          exact String.not_le.mp fun above => same (String.le_antisymm atMost above)
        intro name member
        rcases List.mem_cons.mp member with rfl | later
        · exact less
        · exact String.lt_trans less ((List.pairwise_cons.mp increasing).1 name later)
      · intro name
        rw [List.mem_cons, members, List.mem_cons (a := name) (b := first)]

theorem sorted_names (names : List String) : (names.mergeSort (· ≤ ·)).Pairwise (· ≤ ·) := by
  have transitive (a b c : String) : decide (a ≤ b) → decide (b ≤ c) → decide (a ≤ c) := by
    simp only [decide_eq_true_eq]
    exact String.le_trans
  have total (a b : String) : decide (a ≤ b) || decide (b ≤ a) := by
    simpa using String.le_total a b
  simpa using List.pairwise_mergeSort transitive total names

theorem distinct_spec (names : List String) :
    (distinct names).Pairwise (· < ·) ∧ ∀ name, name ∈ distinct names ↔ name ∈ names := by
  have sorted := sorted_names names
  have members (name : String) : name ∈ names.mergeSort (· ≤ ·) ↔ name ∈ names := List.mem_mergeSort
  unfold distinct List.eraseReps
  cases shape : names.mergeSort (· ≤ ·) with
  | nil =>
    rw [shape] at members
    exact ⟨List.Pairwise.nil, members⟩
  | cons first rest =>
    rw [shape] at sorted members
    obtain ⟨kept, erased, increasing, same⟩ := eraseReps_loop_ordered first rest [] sorted
    simp only [List.eraseRepsBy, erased, List.reverse_nil, List.nil_append]
    exact ⟨increasing, fun name => (same name).trans (members name)⟩

theorem mapM_lookup {checks selected : List (String × Registration)} {names : List String}
    (h : (names.mapM fun name =>
      match checks.lookup name with
      | some registration => Except.ok (name, registration)
      | none => .error (Error.unknownCheck name)) = .ok selected) :
    selected.map (·.1) = names ∧
      ∀ entry ∈ selected, checks.lookup entry.1 = some entry.2 := by
  induction names generalizing selected with
  | nil =>
    cases h
    simp
  | cons name rest ih =>
    rw [List.mapM_cons] at h
    obtain ⟨entry, found, later⟩ := bind_ok_iff.mp h
    obtain ⟨others, more, made⟩ := bind_ok_iff.mp later
    cases made
    obtain ⟨same, present⟩ := ih more
    cases lookup : checks.lookup name with
    | none =>
      rw [lookup] at found
      cases found
    | some registration =>
      rw [lookup] at found
      cases found
      refine ⟨by rw [List.map_cons, same], ?_⟩
      intro other member
      rcases List.mem_cons.mp member with rfl | elsewhere
      · exact lookup
      · exact present other elsewhere

/-- A selection by name holds the named checks as they are registered, each of them once. -/
theorem select_spec {engine : Engine} {names : List String} {selected : List (String × Registration)}
    (h : engine.select names = .ok selected) :
    selected.map (·.1) = distinct names ∧
      ∀ entry ∈ selected, engine.checks.lookup entry.1 = some entry.2 :=
  mapM_lookup h

/-- A run of some registered checks on an image comes to its report along a course. -/
def Reports (engine : Engine) (course : Course) (image : ImageReference) (now : Nat)
    (cancelled : Bool) (store : Store) (outcome : RunOutcome) : Prop :=
  engine.runAlong course image now cancelled store = some outcome ∨
    ∃ names, engine.runChecksAlong course image names now cancelled store = .ok (some outcome)

theorem Reports.runBy {engine : Engine} {course : Course} {image : ImageReference} {now : Nat}
    {cancelled : Bool} {store : Store} {outcome : RunOutcome}
    (reports : engine.Reports course image now cancelled store outcome)
    (ordered : engine.names.Pairwise (· < ·)) :
    ∃ selected schedule, (selected.map (·.1)).Pairwise (· < ·) ∧
      (∀ entry ∈ selected, engine.checks.lookup entry.1 = some entry.2) ∧
      Engine.runBy { engine, image, now } selected schedule cancelled store = some outcome := by
  rcases reports with all | ⟨names, named⟩
  · refine ⟨engine.checks, course engine.names, ordered, ?_, all⟩
    intro entry member
    exact lookup_of_mem (nodup_of_ordered ordered) member
  · obtain ⟨selected, chosen, made⟩ := bind_ok_iff.mp named
    obtain ⟨same, present⟩ := select_spec chosen
    refine ⟨selected, course (selected.map (·.1)), ?_, present, ?_⟩
    · rw [same]
      exact (distinct_spec names).1
    · simpa only [pure, Except.pure, Except.ok.injEq] using made

end Attestor.Engine
