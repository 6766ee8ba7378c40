import Attestor.Engine
import Attestor.Proofs.Associations
import Attestor.Proofs.Results
import Mathlib.Data.List.Induction

namespace Attestor

open Associations Results

inductive Change where
  | register (name : String) (check : Check)
  | registerWithoutAttestation (name : String) (check : Check)
  | require (name : String)
  | dryRun (value : Bool)

namespace Change

def registration? (name : String) : Change → Option Registration
  | register other check => if other = name then some { check } else none
  | registerWithoutAttestation other check =>
    if other = name then some { check, attest := false } else none
  | _ => none

def latest? (history : List Change) (name : String) : Option Change :=
  history.reverse.find? fun change => (change.registration? name).isSome

theorem latest_append (history : List Change) (change : Change) (name : String) :
    latest? (history ++ [change]) name =
      if (change.registration? name).isSome then some change else latest? history name := by
  simp only [latest?, List.reverse_append, List.reverse_singleton, List.singleton_append,
    List.find?_cons]
  cases (change.registration? name).isSome <;> rfl

theorem latest_registers {history : List Change} {name : String} {change : Change}
    (last : latest? history name = some change) : (change.registration? name).isSome = true := by
  unfold latest? at last
  simpa using List.find?_some last

theorem registration_attests {change : Change} {name : String} {registration : Registration}
    (found : change.registration? name = some registration) (attests : registration.attest = true) :
    change = .register name registration.check := by
  cases change with
  | register other check =>
    simp only [registration?] at found
    split at found
    · rename_i same
      cases found
      rw [same]
    · cases found
  | registerWithoutAttestation other check =>
    simp only [registration?] at found
    split at found
    · cases found
      cases attests
    · cases found
  | require other => cases found
  | dryRun value => cases found

end Change

namespace Engine

theorem mem_names_iff {engine : Engine} {name : String} :
    name ∈ engine.names ↔ (engine.checks.lookup name).isSome := by
  simp [names, List.lookup_isSome_iff]

def apply (engine : Engine) : Change → Engine
  | .register name check => engine.register name check
  | .registerWithoutAttestation name check => engine.registerWithoutAttestation name check
  | .require name =>
    match engine.require name with
    | .ok engine => engine
    | .error _ => engine
  | .dryRun value => engine.withDryRun value

def build (metadata : MetadataService) (keyring : KeyRing) (history : List Change) : Engine :=
  history.foldl apply { metadata, keyring }

theorem build_append (metadata : MetadataService) (keyring : KeyRing) (history : List Change)
    (change : Change) :
    build metadata keyring (history ++ [change]) = (build metadata keyring history).apply change := by
  simp [build]

theorem lookup_insert (name other : String) (registration : Registration)
    (checks : List (String × Registration)) :
    (insert name registration checks).lookup other =
      if other = name then some registration else checks.lookup other := by
  induction checks with
  | nil => exact lookup_cons_ite other name registration []
  | cons entry rest ih =>
    obtain ⟨head, old⟩ := entry
    simp only [insert]
    split
    · rename_i equal
      subst equal
      simp only [lookup_cons_ite]
      split <;> rfl
    · rename_i different
      split
      · exact lookup_cons_ite other name registration ((head, old) :: rest)
      · simp only [lookup_cons_ite, ih]
        by_cases same : other = head
        · subst same
          rw [if_pos rfl, if_neg (Ne.symm different)]
          simp
        · rw [if_neg same, if_neg same]

theorem mem_insert {name other : String} {registration : Registration}
    {checks : List (String × Registration)} :
    other ∈ (insert name registration checks).map (·.1) ↔ other = name ∨ other ∈ checks.map (·.1) := by
  induction checks with
  | nil => simp [insert]
  | cons entry rest ih =>
    obtain ⟨head, old⟩ := entry
    simp only [insert]
    split
    · rename_i equal
      subst equal
      simp
    · split
      · simp
      · simp only [List.map_cons, List.mem_cons, ih]
        exact or_left_comm

theorem insert_ordered (name : String) (registration : Registration)
    (checks : List (String × Registration)) (ordered : (checks.map (·.1)).Pairwise (· < ·)) :
    ((insert name registration checks).map (·.1)).Pairwise (· < ·) := by
  induction checks with
  | nil => simp [insert]
  | cons entry rest ih =>
    obtain ⟨head, old⟩ := entry
    obtain ⟨first, tail⟩ := List.pairwise_cons.mp ordered
    simp only [insert]
    split
    · rename_i equal
      subst equal
      exact List.pairwise_cons.mpr ⟨first, tail⟩
    · rename_i different
      split
      · rename_i less
        refine List.pairwise_cons.mpr ⟨?_, ordered⟩
        intro other member
        rcases List.mem_cons.mp member with rfl | later
        · exact less
        · exact String.lt_trans less (first other later)
      · rename_i notLess
        refine List.pairwise_cons.mpr ⟨?_, ih tail⟩
        intro other member
        rcases mem_insert.mp member with rfl | later
        · have greater : head ≤ other := String.not_lt.mp notLess
          rcases String.le_total other head with below | above
          · exact absurd (String.le_antisymm below greater) different
          · exact String.not_le.mp fun below => different (String.le_antisymm below above)
        · exact first other later

theorem require_checks {engine after : Engine} {name : String} (h : engine.require name = .ok after) :
    after.checks = engine.checks ∧ after.metadata = engine.metadata ∧ after.keyring = engine.keyring := by
  simp only [require] at h
  split at h
  · cases h
  · split at h
    · cases h
      exact ⟨rfl, rfl, rfl⟩
    · cases h
      exact ⟨rfl, rfl, rfl⟩

theorem apply_checks (engine : Engine) (change : Change) (name : String) :
    (engine.apply change).checks.lookup name =
      (change.registration? name).or (engine.checks.lookup name) := by
  cases change with
  | register other check =>
    simp only [apply, register, lookup_insert, Change.registration?, eq_comm (a := name)]
    split <;> simp
  | registerWithoutAttestation other check =>
    simp only [apply, registerWithoutAttestation, lookup_insert, Change.registration?,
      eq_comm (a := name)]
    split <;> simp
  | require other =>
    simp only [apply, Change.registration?, Option.none_or]
    split
    · rename_i after required
      rw [(require_checks required).1]
    · rfl
  | dryRun value => simp [apply, withDryRun, Change.registration?]

theorem apply_ordered (engine : Engine) (change : Change)
    (ordered : engine.names.Pairwise (· < ·)) : (engine.apply change).names.Pairwise (· < ·) := by
  cases change with
  | register name check => exact insert_ordered name _ _ ordered
  | registerWithoutAttestation name check => exact insert_ordered name _ _ ordered
  | require name =>
    simp only [apply]
    split
    · rename_i after required
      rw [names, (require_checks required).1]
      exact ordered
    · exact ordered
  | dryRun value => exact ordered

theorem apply_services (engine : Engine) (change : Change) :
    (engine.apply change).metadata = engine.metadata ∧
      (engine.apply change).keyring = engine.keyring := by
  cases change with
  | register name check => exact ⟨rfl, rfl⟩
  | registerWithoutAttestation name check => exact ⟨rfl, rfl⟩
  | require name =>
    simp only [apply]
    split
    · rename_i after required
      exact (require_checks required).2
    · exact ⟨rfl, rfl⟩
  | dryRun value => exact ⟨rfl, rfl⟩

section

variable (metadata : MetadataService) (keyring : KeyRing) (history : List Change)

@[simp] theorem build_metadata : (build metadata keyring history).metadata = metadata := by
  induction history using List.reverseRecOn with
  | nil => rfl
  | append_singleton history change ih => rw [build_append, (apply_services _ _).1, ih]

@[simp] theorem build_keyring : (build metadata keyring history).keyring = keyring := by
  induction history using List.reverseRecOn with
  | nil => rfl
  | append_singleton history change ih => rw [build_append, (apply_services _ _).2, ih]

/-- The checks of an engine stand in order of their names, and no name is repeated. -/
theorem build_ordered : (build metadata keyring history).names.Pairwise (· < ·) := by
  induction history using List.reverseRecOn with
  | nil => exact List.Pairwise.nil
  | append_singleton history change ih =>
    rw [build_append]
    exact apply_ordered _ change ih

/-- What is made under a name is what was registered last. -/
theorem lookup_build (name : String) :
    (build metadata keyring history).checks.lookup name =
      (Change.latest? history name).bind (Change.registration? name) := by
  induction history using List.reverseRecOn with
  | nil => rfl
  | append_singleton history change ih =>
    rw [build_append, apply_checks, ih, Change.latest_append]
    cases found : change.registration? name with
    | none => simp
    | some registration => simp [found]

theorem mem_names_build (name : String) :
    name ∈ (build metadata keyring history).names ↔ (Change.latest? history name).isSome := by
  have registered := lookup_build metadata keyring history name
  rw [mem_names_iff, registered]
  cases last : Change.latest? history name with
  | none => rfl
  | some change => simpa using Change.latest_registers last

variable {metadata keyring history} in
theorem registered_of_lookup {name : String} {registration : Registration}
    (found : (build metadata keyring history).checks.lookup name = some registration) :
    ∃ change ∈ history, change.registration? name = some registration := by
  rw [lookup_build] at found
  obtain ⟨change, last, puts⟩ := Option.bind_eq_some_iff.mp found
  exact ⟨change, List.mem_reverse.mp (List.mem_of_find?_eq_some last), puts⟩

end

theorem nodup_of_ordered {names : List String} (ordered : names.Pairwise (· < ·)) :
    names.Nodup := by
  refine ordered.imp ?_
  intro first second less same
  subst same
  exact String.lt_irrefl first less

theorem enable_register {settings : Settings} {services : Services} {engine after : Engine}
    {text : String} (h : enable settings services engine text = .ok after) :
    ∃ name check, canonical text = .ok name ∧ after = engine.register name check := by
  obtain ⟨name, spelled, later⟩ := bind_ok_iff.mp h
  obtain ⟨check, _, made⟩ := bind_ok_iff.mp later
  cases made
  exact ⟨name, check, spelled, rfl⟩

theorem requireText_require {engine after : Engine} {text : String}
    (h : requireText engine text = .ok after) :
    ∃ name, engine.require name = .ok after ∧ after = engine.apply (.require name) := by
  obtain ⟨name, _, required⟩ := bind_ok_iff.mp h
  exact ⟨name, required, by simp only [apply, required]⟩

theorem foldlM_enable_names {settings : Settings} {services : Services} {texts : List String}
    {engine after : Engine} (h : texts.foldlM (enable settings services) engine = .ok after)
    (name : String) :
    name ∈ after.names ↔ name ∈ engine.names ∨ ∃ text ∈ texts, canonical text = .ok name := by
  induction texts generalizing engine with
  | nil =>
    cases h
    simp
  | cons text rest ih =>
    rw [List.foldlM_cons] at h
    obtain ⟨middle, made, later⟩ := bind_ok_iff.mp h
    obtain ⟨added, check, spelled, rfl⟩ := enable_register made
    rw [ih later]
    have member : name ∈ (engine.register added check).names ↔ name = added ∨ name ∈ engine.names :=
      mem_insert
    rw [member]
    simp only [List.mem_cons, exists_eq_or_imp, spelled, Except.ok.injEq, eq_comm (a := added)]
    constructor
    · intro given
      rcases given with (same | old) | new
      · exact .inr (.inl same)
      · exact .inl old
      · exact .inr (.inr new)
    · intro given
      rcases given with old | same | new
      · exact .inl (.inr old)
      · exact .inl (.inl same)
      · exact .inr new

/-- The engine of some settings is built by registering the enabled checks and requiring the required
ones. -/
theorem ofSettings_built {settings : Settings} {services : Services} {keyring : KeyRing}
    {engine : Engine} (h : ofSettings settings services keyring = .ok engine) :
    (∃ history, engine = build services.metadata keyring history) ∧
      ∀ name, name ∈ engine.names ↔ ∃ text ∈ settings.checks.enabled, canonical text = .ok name := by
  obtain ⟨enabled, registered, required⟩ := bind_ok_iff.mp h
  let built (after : Engine) : Prop := ∃ history, after = build services.metadata keyring history
  constructor
  · have start : built enabled := by
      refine foldlM_preserves built registered ⟨[.dryRun settings.checks.dryRun], rfl⟩ ?_
      intro _ text after _ made given
      obtain ⟨history, rfl⟩ := given
      obtain ⟨name, check, _, rfl⟩ := enable_register made
      refine ⟨history ++ [Change.register name check], ?_⟩
      rw [build_append]
      rfl
    refine foldlM_preserves built required start ?_
    intro _ text after _ made given
    obtain ⟨history, rfl⟩ := given
    obtain ⟨name, _, rfl⟩ := requireText_require made
    exact ⟨history ++ [Change.require name], (build_append ..).symm⟩
  · intro name
    have same : engine.names = enabled.names := by
      refine foldlM_preserves (fun after => after.names = enabled.names) required rfl ?_
      intro before text after _ made kept
      obtain ⟨_, accepted, _⟩ := requireText_require made
      rw [names, (require_checks accepted).1]
      exact kept
    rw [same, foldlM_enable_names registered]
    simp [names]

end Engine

end Attestor
