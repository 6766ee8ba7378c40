import Attestor.Proofs.Engine.Quiet
import Mathlib.Data.List.Nodup

namespace Attestor

namespace Report

/-- The verdict over results, in terms of what the required and the other results are. -/
theorem verdict_iff {required : List String} {results : List CheckResult} :
    verdict required results = true ↔
      (∃ result ∈ results, result.name ∈ required) ∧
          (∀ result ∈ results, result.name ∈ required → result.success = true) ∨
        (∀ result ∈ results, result.name ∉ required) ∧ results ≠ [] ∧
          ∀ result ∈ results, result.success = true := by
  unfold verdict
  split
  · rename_i undecided
    have none : ∀ result ∈ results, result.name ∉ required := by
      intro result member
      simpa using List.filter_eq_nil_iff.mp undecided result member
    have empty : ¬ ∃ result ∈ results, result.name ∈ required := by
      rintro ⟨result, member, decides⟩
      exact none result member decides
    simp only [empty, false_and, false_or, Bool.and_eq_true, Bool.not_eq_true',
      List.isEmpty_eq_false_iff, List.all_eq_true]
    exact ⟨fun given => ⟨none, given⟩, fun given => given.2⟩
  · rename_i decided
    obtain ⟨first, decisive⟩ := List.exists_mem_of_ne_nil _ decided
    obtain ⟨member, decides⟩ := List.mem_filter.mp decisive
    have named : first.name ∈ required := by simpa using decides
    have some : ∃ result ∈ results, result.name ∈ required := ⟨first, member, named⟩
    have notNone : ¬ ∀ result ∈ results, result.name ∉ required :=
      fun none => none first member named
    simp only [some, notNone, true_and, false_and, or_false, List.all_eq_true, List.mem_filter,
      List.contains_iff_mem, and_imp]

def Succeeds (report : Report) (name : String) : Prop :=
  ∃ result ∈ report.results, result.name = name ∧ result.success = true

theorem succeeds_iff_mem {report : Report} {name : String} :
    report.Succeeds name ↔
      (name, true) ∈ report.results.map fun result => (result.name, result.success) := by
  simp [Succeeds]

theorem forall_success_iff {report : Report} {names : List String}
    (listed : report.results.map (·.name) = names) (distinct : names.Nodup)
    (Decides : String → Prop) :
    (∀ result ∈ report.results, Decides result.name → result.success = true) ↔
      ∀ name ∈ names, Decides name → report.Succeeds name := by
  subst listed
  constructor
  · intro each name asked decides
    obtain ⟨result, member, rfl⟩ := List.mem_map.mp asked
    exact ⟨result, member, rfl, each result member decides⟩
  · intro each result member decides
    obtain ⟨other, found, named, success⟩ :=
      each result.name (List.mem_map_of_mem member) decides
    obtain rfl := List.inj_on_of_nodup_map distinct found member named
    exact success

end Report

namespace Engine

theorem require_error_iff {engine : Engine} {name : String} {error : Error} :
    engine.require name = .error error ↔
      name ∉ engine.names ∧ error = .requiredCheckNotEnabled name := by
  rw [mem_names_iff]
  unfold require
  cases engine.checks.lookup name with
  | none => simp [eq_comm]
  | some registration =>
    simp only [Option.isNone_some, Bool.false_eq_true, ↓reduceIte, Option.isSome_some,
      not_true_eq_false, false_and, iff_false]
    split <;> simp

theorem mem_required_of_require {engine after : Engine} {name other : String}
    (accepted : engine.require name = .ok after) :
    other ∈ after.required ↔ other ∈ engine.required ∨ other = name := by
  unfold require at accepted
  split at accepted
  · cases accepted
  · split at accepted
    · rename_i already
      cases accepted
      have held : name ∈ engine.required := by simpa using already
      constructor
      · exact .inl
      · rintro (old | rfl)
        · exact old
        · exact held
    · cases accepted
      simp

theorem mem_required_apply {engine : Engine} {change : Change} {name : String} :
    name ∈ (engine.apply change).required ↔
      name ∈ engine.required ∨ change = .require name ∧ name ∈ engine.names := by
  cases change with
  | register other check => simp [apply, register]
  | registerWithoutAttestation other check => simp [apply, registerWithoutAttestation]
  | dryRun value => simp [apply, withDryRun]
  | require other =>
    simp only [Change.require.injEq]
    cases answer : engine.require other with
    | error error =>
      have absent := (require_error_iff.mp answer).1
      simp only [apply, answer]
      constructor
      · exact .inl
      · rintro (old | ⟨rfl, present⟩)
        · exact old
        · exact absurd present absent
    | ok after =>
      have present : other ∈ engine.names := by
        by_contra absent
        have refused := require_error_iff.mpr ⟨absent, rfl⟩
        rw [answer] at refused
        cases refused
      simp only [apply, answer, mem_required_of_require answer]
      constructor
      · rintro (old | rfl)
        · exact .inl old
        · exact .inr ⟨rfl, present⟩
      · rintro (old | ⟨rfl, _⟩)
        · exact .inl old
        · exact .inr rfl

theorem mem_names_apply {engine : Engine} {name : String} (change : Change)
    (member : name ∈ engine.names) : name ∈ (engine.apply change).names := by
  rw [mem_names_iff] at member ⊢
  rw [apply_checks]
  cases change.registration? name with
  | none => exact member
  | some registration => rfl

section

variable {service : MetadataService} {keyring : KeyRing} {history : List Change}

theorem build_required_registered {name : String}
    (member : name ∈ (build service keyring history).required) :
    name ∈ (build service keyring history).names := by
  induction history using List.reverseRecOn with
  | nil => cases member
  | append_singleton history change ih =>
    rw [build_append] at member ⊢
    rcases mem_required_apply.mp member with old | ⟨_, present⟩
    · exact mem_names_apply change (ih old)
    · exact mem_names_apply change present

/-- The required names are those that were required when they were registered already. -/
theorem mem_required_build {name : String} :
    name ∈ (build service keyring history).required ↔
      ∃ before after, history = before ++ Change.require name :: after ∧
        name ∈ (build service keyring before).names := by
  induction history using List.reverseRecOn with
  | nil => simp [build]
  | append_singleton history change ih =>
    rw [build_append, mem_required_apply, ih]
    constructor
    · rintro (⟨before, after, rfl, present⟩ | ⟨rfl, present⟩)
      · exact ⟨before, after ++ [change], by simp, present⟩
      · exact ⟨history, [], rfl, present⟩
    · rintro ⟨before, after, split, present⟩
      rcases List.eq_nil_or_concat after with rfl | ⟨earlier, last, rfl⟩
      · obtain ⟨rfl, same⟩ := List.append_inj' split rfl
        cases same
        exact .inr ⟨rfl, present⟩
      · rw [List.concat_eq_append, ← List.cons_append, ← List.append_assoc] at split
        obtain ⟨rfl, _⟩ := List.append_inj' split rfl
        exact .inl ⟨before, earlier, rfl, present⟩

end

variable {engine : Engine} {request : Request} {course : Course} {image : ImageReference} {now : Nat}
  {cancelled : Bool} {store : Store} {outcome : RunOutcome}

/-- The verdict over what was asked for: the required checks in it decide, or else all of it does. -/
theorem answer_success_iff (ordered : engine.names.Pairwise (· < ·))
    (answered : engine.answer request course image now cancelled store = .ok (some outcome)) :
    outcome.report.success = true ↔
      (∃ name ∈ engine.requested request, name ∈ engine.required) ∧
          (∀ name ∈ engine.requested request, name ∈ engine.required →
            outcome.report.Succeeds name) ∨
        (∀ name ∈ engine.requested request, name ∉ engine.required) ∧
          engine.requested request ≠ [] ∧
          ∀ name ∈ engine.requested request, outcome.report.Succeeds name := by
  have listed := answer_names ordered answered
  have distinct := nodup_of_ordered (requested_ordered ordered request)
  have verdict : outcome.report.success = Report.verdict engine.required outcome.report.results :=
    congrArg Report.success (answer_whole ordered answered)
  have some : (∃ result ∈ outcome.report.results, result.name ∈ engine.required) ↔
      ∃ name ∈ engine.requested request, name ∈ engine.required := by
    rw [← listed]
    simp
  have none : (∀ result ∈ outcome.report.results, result.name ∉ engine.required) ↔
      ∀ name ∈ engine.requested request, name ∉ engine.required := by
    rw [← listed, List.forall_mem_map]
  have asked : outcome.report.results ≠ [] ↔ engine.requested request ≠ [] := by
    rw [← listed, ne_eq, ne_eq, List.map_eq_nil_iff]
  have decisive := Report.forall_success_iff listed distinct (· ∈ engine.required)
  have all := Report.forall_success_iff listed distinct fun _ => True
  simp only [true_imp_iff] at all
  rw [verdict, Report.verdict_iff, some, none, asked, decisive, all]

theorem answer_all_success_iff (ordered : engine.names.Pairwise (· < ·))
    (registered : ∀ name ∈ engine.required, name ∈ engine.names)
    (answered : engine.answer .all course image now cancelled store = .ok (some outcome)) :
    outcome.report.success = true ↔
      engine.required ≠ [] ∧ (∀ name ∈ engine.required, outcome.report.Succeeds name) ∨
        engine.required = [] ∧ engine.names ≠ [] ∧
          ∀ name ∈ engine.names, outcome.report.Succeeds name := by
  have some : (∃ name ∈ engine.names, name ∈ engine.required) ↔ engine.required ≠ [] := by
    constructor
    · rintro ⟨name, _, decides⟩
      exact List.ne_nil_of_mem decides
    · intro decided
      obtain ⟨name, decides⟩ := List.exists_mem_of_ne_nil _ decided
      exact ⟨name, registered name decides, decides⟩
  have none : (∀ name ∈ engine.names, name ∉ engine.required) ↔ engine.required = [] := by
    constructor
    · intro free
      by_contra decided
      obtain ⟨name, member, decides⟩ := some.mpr decided
      exact free name member decides
    · intro empty name _ decides
      rw [empty] at decides
      cases decides
  have decisive : (∀ name ∈ engine.names, name ∈ engine.required → outcome.report.Succeeds name) ↔
      ∀ name ∈ engine.required, outcome.report.Succeeds name := by
    constructor
    · intro each name decides
      exact each name (registered name decides) decides
    · intro each name _ decides
      exact each name decides
  have verdict := answer_success_iff ordered answered
  simp only [requested, some, none, decisive] at verdict
  exact verdict

theorem answer_named_success_iff {names : List String} (ordered : engine.names.Pairwise (· < ·))
    (answered : engine.answer (.named names) course image now cancelled store = .ok (some outcome)) :
    outcome.report.success = true ↔
      (∃ name ∈ names, name ∈ engine.required) ∧
          (∀ name ∈ names, name ∈ engine.required → outcome.report.Succeeds name) ∨
        (∀ name ∈ names, name ∉ engine.required) ∧ names ≠ [] ∧
          ∀ name ∈ names, outcome.report.Succeeds name := by
  have members := (distinct_spec names).2
  have asked : distinct names ≠ [] ↔ names ≠ [] := by
    simp only [ne_eq, List.eq_nil_iff_forall_not_mem, members]
  have verdict := answer_success_iff ordered answered
  simp only [requested, members, asked] at verdict
  exact verdict

/-- However an engine is put together, it requires registered checks only: those that were required
after they were registered. A check that is not registered is refused and changes nothing, and what was
registered last under a name is made. The required checks decide the verdict over what was asked for,
if there are any among it; if not, all of it does, and nothing vouches for nothing. -/
theorem build_verdict (service : MetadataService) (keyring : KeyRing) (history : List Change) :
    let engine := build service keyring history
    (∀ name ∈ engine.required, name ∈ engine.names) ∧
    (∀ name, name ∈ engine.required ↔ ∃ before after,
      history = before ++ Change.require name :: after ∧
        name ∈ (build service keyring before).names) ∧
    (∀ name, name ∈ engine.names ↔ (Change.latest? history name).isSome) ∧
    (∀ name, engine.checks.lookup name =
      (Change.latest? history name).bind (Change.registration? name)) ∧
    (∀ name error, engine.require name = .error error ↔
      name ∉ engine.names ∧ error = .requiredCheckNotEnabled name) ∧
    (∀ name, name ∉ engine.names →
      build service keyring (history ++ [Change.require name]) = engine) ∧
    (∀ request course image now cancelled store outcome,
      engine.answer request course image now cancelled store = .ok (some outcome) →
        outcome.report.results.map (·.name) = engine.requested request ∧
        (engine.requested request).Nodup) ∧
    (∀ course image now cancelled store outcome,
      engine.answer .all course image now cancelled store = .ok (some outcome) →
        (outcome.report.success = true ↔
          engine.required ≠ [] ∧ (∀ name ∈ engine.required, outcome.report.Succeeds name) ∨
            engine.required = [] ∧ engine.names ≠ [] ∧
              ∀ name ∈ engine.names, outcome.report.Succeeds name)) ∧
    (∀ names course image now cancelled store outcome,
      engine.answer (.named names) course image now cancelled store = .ok (some outcome) →
        (outcome.report.success = true ↔
          (∃ name ∈ names, name ∈ engine.required) ∧
              (∀ name ∈ names, name ∈ engine.required → outcome.report.Succeeds name) ∨
            (∀ name ∈ names, name ∉ engine.required) ∧ names ≠ [] ∧
              ∀ name ∈ names, outcome.report.Succeeds name)) ∧
    ∀ request course image now store,
      Run.GivesTurns (engine.requested request) (course (engine.requested request)) →
      .cancel ∉ course (engine.requested request) →
      (∀ name ∈ engine.requested request, ∃ registration,
        engine.checks.lookup name = some registration ∧
          Assignment.EndsAlone { engine, image, now } name registration) →
      ∃ outcome, engine.answer request course image now false store = .ok (some outcome) := by
  intro engine
  have ordered : engine.names.Pairwise (· < ·) := build_ordered service keyring history
  refine ⟨fun _ => build_required_registered, fun _ => mem_required_build,
    mem_names_build service keyring history, lookup_build service keyring history,
    fun _ _ => require_error_iff, ?_, ?_, ?_, ?_, ?_⟩
  · intro name absent
    have refused : engine.require name = .error (.requiredCheckNotEnabled name) :=
      require_error_iff.mpr ⟨absent, rfl⟩
    rw [build_append, apply, refused]
  · intro request course image now cancelled store outcome answered
    exact ⟨answer_names ordered answered, nodup_of_ordered (requested_ordered ordered request)⟩
  · intro course image now cancelled store outcome
    exact answer_all_success_iff ordered fun _ => build_required_registered
  · intro names course image now cancelled store outcome
    exact answer_named_success_iff ordered
  · intro request course image now store turns uncancelled alone
    obtain ⟨_, outcome, answered, _⟩ := gives_results store ordered turns uncancelled alone
    exact ⟨outcome, answered⟩

def requiringOne : List Change :=
  [.register "diy" { decide := fun _ => .failure .cancelled }, .require "org",
    .register "org" { decide := fun _ => .failure (.rejected .noBuildDetail) },
    .register "diy" { decide := fun _ => .value () }, .require "diy", .dryRun true]

theorem build_verdict_requiringOne :
    let image : ImageReference := { name := "gcr.io/project/app", digest := "sha256:ab" }
    let engine := build (Catalogue.service {}) {} requiringOne
    engine.required = ["diy"] ∧ engine.names = ["diy", "org"] ∧
    (∃ outcome, engine.answer .all Run.onOneThread image 5 false {} = .ok (some outcome) ∧
      ¬ outcome.report.Succeeds "org" ∧ outcome.report.success = true) ∧
    ∃ outcome, engine.answer (.named ["org"]) Run.onOneThread image 5 false {} = .ok (some outcome) ∧
      ¬ outcome.report.Succeeds "org" ∧ outcome.report.success = false := by
  intro image engine
  obtain ⟨_, _, _, _, _, _, _, all, named, _⟩ :=
    build_verdict (Catalogue.service {}) {} requiringOne
  have required : engine.required = ["diy"] := by decide +kernel
  refine ⟨required, by decide +kernel, ?_, ?_⟩
  · obtain ⟨outcome, answered, results⟩ := exists_answer (fun outcome =>
        outcome.report.results.map (fun result => (result.name, result.success)) =
          [("diy", true), ("org", false)])
      (by decide +kernel : (engine.answer .all Run.onOneThread image 5 false {}).toOption.any _ = true)
    refine ⟨outcome, answered, ?_, (all _ _ _ _ _ _ answered).mpr (.inl ⟨?_, ?_⟩)⟩
    · rw [Report.succeeds_iff_mem, results]
      simp
    · exact required ▸ List.cons_ne_nil _ _
    · intro name decides
      obtain rfl : name = "diy" := by simpa [engine, required] using decides
      rw [Report.succeeds_iff_mem, results]
      exact List.mem_cons_self ..
  · obtain ⟨outcome, answered, results⟩ := exists_answer (fun outcome =>
        outcome.report.results.map (fun result => (result.name, result.success)) = [("org", false)])
      (by decide +kernel :
        (engine.answer (.named ["org"]) Run.onOneThread image 5 false {}).toOption.any _ = true)
    have fails : ¬ outcome.report.Succeeds "org" := by
      rw [Report.succeeds_iff_mem, results]
      simp
    refine ⟨outcome, answered, fails, ?_⟩
    rw [Bool.eq_false_iff]
    intro vouches
    rcases (named _ _ _ _ _ _ _ answered).mp vouches with ⟨⟨name, asked, decides⟩, _⟩ | ⟨_, _, each⟩
    · have decides : name ∈ engine.required := decides
      rw [required, List.mem_singleton] at decides
      rw [decides] at asked
      simp at asked
    · exact fails (each "org" (List.mem_singleton_self _))

end Engine

end Attestor
