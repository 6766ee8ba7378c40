import Attestor.Engine.Verify
import Attestor.Proofs.Engine.Neutrality

namespace Attestor

open Associations Results

namespace CheckName

def lowered (text : String) : String :=
  text.map Char.toLower

theorem ofAnyCase_iff {text : String} {name : CheckName} :
    ofAnyCase? text = some name ↔ lowered text = name.name := by
  constructor
  · intro found
    have same := List.find?_some found
    exact (beq_iff_eq.mp same).symm
  · intro same
    unfold lowered at same
    unfold ofAnyCase?
    rw [same]
    cases name <;> decide

theorem ofAnyCase_none_iff {text : String} :
    ofAnyCase? text = none ↔ ∀ name : CheckName, lowered text ≠ name.name := by
  simp only [Option.eq_none_iff_forall_ne_some, ne_eq, ofAnyCase_iff]

theorem lowered_name (name : CheckName) : lowered name.name = name.name := by
  cases name <;> decide +kernel

theorem name_inj {name other : CheckName} (same : name.name = other.name) : name = other := by
  have found := ofAnyCase_iff.mpr (lowered_name name)
  rw [same, ofAnyCase_iff.mpr (lowered_name other)] at found
  exact (Option.some.inj found).symm

end CheckName

open CheckName

namespace Check

variable {settings : Settings} {services : Services} {name : CheckName}

theorem ofName_none_iff (settings : Settings) :
    ofName name settings services = none ↔ name = .approved ∧ services.repository = none := by
  cases name <;> simp [ofName]

theorem ofText_ok_iff {check : Check} :
    ofText name.name settings services = .ok check ↔ ofName name settings services = some check := by
  unfold ofText
  rw [ofAnyCase_iff.mpr (lowered_name name)]
  cases ready : ofName name settings services <;> simp [ready]

theorem ofText_error_iff {error : Error} :
    ofText name.name settings services = .error error ↔
      (name = .approved ∧ services.repository = none) ∧
        error = .missingRepositoryClient name.name := by
  rw [← ofName_none_iff settings]
  unfold ofText
  rw [ofAnyCase_iff.mpr (lowered_name name)]
  cases ready : ofName name settings services <;> simp [ready, eq_comm]

end Check

namespace Engine

variable {settings : Settings} {services : Services} {keyring : KeyRing} {engine after : Engine}
  {text : String} {error : Error}

theorem canonical_ok_iff {spelled : String} :
    canonical text = .ok spelled ↔
      ∃ name : CheckName, lowered text = name.name ∧ name.name = spelled := by
  simp only [← ofAnyCase_iff]
  unfold canonical
  cases ofAnyCase? text <;> simp

theorem canonical_error_iff :
    canonical text = .error error ↔
      (∀ name : CheckName, lowered text ≠ name.name) ∧ error = .unknownCheck text := by
  rw [← ofAnyCase_none_iff]
  unfold canonical
  cases ofAnyCase? text <;> simp [eq_comm]

theorem enable_ok_iff :
    enable settings services engine text = .ok after ↔
      ∃ name check, lowered text = CheckName.name name ∧
        Check.ofName name settings services = some check ∧ after = engine.register name.name check := by
  simp only [enable, bind_ok_iff, canonical_ok_iff]
  constructor
  · rintro ⟨_, ⟨name, named, rfl⟩, check, ready, made⟩
    cases made
    exact ⟨name, check, named, Check.ofText_ok_iff.mp ready, rfl⟩
  · rintro ⟨name, check, named, ready, rfl⟩
    exact ⟨_, ⟨name, named, rfl⟩, check, Check.ofText_ok_iff.mpr ready, rfl⟩

/-- An entry of the enabled checks that no engine makes, and the error that it ends in. -/
inductive Unfit (services : Services) : String → Error → Prop where
  | unknown {text : String} (strange : ∀ name : CheckName, lowered text ≠ name.name) :
      Unfit services text (.unknownCheck text)
  | unserved {text : String} (named : lowered text = CheckName.approved.name)
      (absent : services.repository = none) :
      Unfit services text (.missingRepositoryClient CheckName.approved.name)

theorem enable_error_iff :
    enable settings services engine text = .error error ↔ Unfit services text error := by
  simp only [enable, bind_error_iff, canonical_error_iff, canonical_ok_iff]
  constructor
  · rintro (⟨strange, rfl⟩ | ⟨_, ⟨name, named, rfl⟩, refused | ⟨check, _, impossible⟩⟩)
    · exact .unknown strange
    · obtain ⟨⟨rfl, absent⟩, rfl⟩ := Check.ofText_error_iff.mp refused
      exact .unserved named absent
    · cases impossible
  · intro unfit
    cases unfit with
    | unknown strange => exact .inl ⟨strange, rfl⟩
    | unserved named absent =>
      exact .inr ⟨_, ⟨.approved, named, rfl⟩, .inl (Check.ofText_error_iff.mpr ⟨⟨rfl, absent⟩, rfl⟩)⟩

theorem not_unfit_iff :
    (∀ e, ¬ Unfit services text e) ↔
      (∃ name : CheckName, lowered text = name.name) ∧
        (lowered text = CheckName.approved.name → services.repository.isSome) := by
  constructor
  · intro fit
    constructor
    · by_contra strange
      exact fit _ (.unknown fun name named => strange ⟨name, named⟩)
    · intro named
      rw [Option.isSome_iff_ne_none]
      exact fun absent => fit _ (.unserved named absent)
  · rintro ⟨⟨name, named⟩, served⟩ e unfit
    cases unfit with
    | unknown strange => exact strange name named
    | unserved named absent =>
      have present := served named
      rw [absent] at present
      cases present

theorem foldlM_enable_error_iff {texts : List String} :
    texts.foldlM (enable settings services) engine = .error error ↔
      FailsFirst (Unfit services) texts error :=
  foldlM_error_iff (fun _ => True) (Unfit services) (fun _ _ _ _ _ => trivial)
    (fun _ _ _ _ => enable_error_iff) trivial

theorem foldlM_enable_ok_iff (settings : Settings) (engine : Engine) {texts : List String} :
    (∃ after, texts.foldlM (enable settings services) engine = .ok after) ↔
      ∀ text ∈ texts, ∀ e, ¬ Unfit services text e :=
  foldlM_ok_iff (fun _ => True) (Unfit services) (fun _ _ _ _ _ => trivial)
    (fun _ _ _ _ => enable_error_iff) trivial

theorem requireText_ok_iff :
    requireText engine text = .ok after ↔
      ∃ name : CheckName, lowered text = name.name ∧ engine.require name.name = .ok after := by
  simp only [requireText, bind_ok_iff, canonical_ok_iff]
  constructor
  · rintro ⟨_, ⟨name, named, rfl⟩, accepted⟩
    exact ⟨name, named, accepted⟩
  · rintro ⟨name, named, accepted⟩
    exact ⟨_, ⟨name, named, rfl⟩, accepted⟩

def NamedBy (engine : Engine) (texts : List String) : Prop :=
  ∀ name, name ∈ engine.names ↔ ∃ text ∈ texts, lowered text = name

/-- An entry of the required checks that the enabled ones do not meet, and the error that it ends in. -/
inductive Unmet (enabled : List String) : String → Error → Prop where
  | unknown {text : String} (strange : ∀ name : CheckName, lowered text ≠ name.name) :
      Unmet enabled text (.unknownCheck text)
  | disabled {text : String} (name : CheckName) (named : lowered text = name.name)
      (missing : ∀ other ∈ enabled, lowered other ≠ name.name) :
      Unmet enabled text (.requiredCheckNotEnabled name.name)

theorem requireText_error_iff {enabled : List String} (made : engine.NamedBy enabled) :
    requireText engine text = .error error ↔ Unmet enabled text error := by
  have missing (name : String) : name ∉ engine.names ↔ ∀ other ∈ enabled, lowered other ≠ name := by
    rw [made]
    simp
  simp only [requireText, bind_error_iff, canonical_error_iff, canonical_ok_iff, require_error_iff,
    missing]
  constructor
  · rintro (⟨strange, rfl⟩ | ⟨_, ⟨name, named, rfl⟩, absent, rfl⟩)
    · exact .unknown strange
    · exact .disabled name named absent
  · intro unmet
    cases unmet with
    | unknown strange => exact .inl ⟨strange, rfl⟩
    | disabled name named absent => exact .inr ⟨_, ⟨name, named, rfl⟩, absent, rfl⟩

theorem not_unmet_iff {enabled : List String} :
    (∀ e, ¬ Unmet enabled text e) ↔
      (∃ name : CheckName, lowered text = name.name) ∧
        ∃ other ∈ enabled, lowered other = lowered text := by
  constructor
  · intro met
    have named : ∃ name : CheckName, lowered text = name.name := by
      by_contra strange
      exact met _ (.unknown fun name named => strange ⟨name, named⟩)
    refine ⟨named, ?_⟩
    obtain ⟨name, named⟩ := named
    by_contra missing
    refine met _ (.disabled name named fun other member same => missing ?_)
    exact ⟨other, member, same.trans named.symm⟩
  · rintro ⟨⟨name, named⟩, other, member, same⟩ e unmet
    cases unmet with
    | unknown strange => exact strange name named
    | disabled name named missing => exact missing other member (same.trans named)

section

variable {enabled texts : List String}

theorem NamedBy.requireText (made : engine.NamedBy enabled)
    (accepted : requireText engine text = .ok after) : after.NamedBy enabled := by
  obtain ⟨_, _, accepted⟩ := requireText_ok_iff.mp accepted
  unfold NamedBy names at made ⊢
  rw [(require_checks accepted).1]
  exact made

theorem foldlM_requireText_error_iff (made : engine.NamedBy enabled) :
    texts.foldlM requireText engine = .error error ↔ FailsFirst (Unmet enabled) texts error :=
  foldlM_error_iff (·.NamedBy enabled) (Unmet enabled)
    (fun _ _ _ made accepted => made.requireText accepted)
    (fun _ _ _ made => requireText_error_iff made) made

theorem foldlM_requireText_ok_iff (made : engine.NamedBy enabled) :
    (∃ after, texts.foldlM requireText engine = .ok after) ↔
      ∀ text ∈ texts, ∀ e, ¬ Unmet enabled text e :=
  foldlM_ok_iff (·.NamedBy enabled) (Unmet enabled)
    (fun _ _ _ made accepted => made.requireText accepted)
    (fun _ _ _ made => requireText_error_iff made) made

end

theorem require_frame {name : String} (accepted : engine.require name = .ok after) :
    after = { engine with required := after.required } ∧
      (engine.required.Nodup → after.required.Nodup) := by
  unfold require at accepted
  split at accepted
  · cases accepted
  · split at accepted
    · cases accepted
      exact ⟨rfl, id⟩
    · rename_i fresh
      cases accepted
      refine ⟨rfl, fun once => ?_⟩
      have absent : name ∉ engine.required := by simpa using fresh
      refine List.nodup_append.mpr ⟨once, List.nodup_singleton name, ?_⟩
      intro other member another last same
      rw [same, List.mem_singleton.mp last] at member
      exact absent member

theorem foldlM_requireText_required {texts : List String}
    (h : texts.foldlM requireText engine = .ok after) (name : String) :
    name ∈ after.required ↔ name ∈ engine.required ∨ ∃ text ∈ texts, lowered text = name := by
  induction texts generalizing engine with
  | nil =>
    cases h
    simp
  | cons text rest ih =>
    rw [List.foldlM_cons] at h
    obtain ⟨middle, accepted, later⟩ := bind_ok_iff.mp h
    obtain ⟨checkName, named, required⟩ := requireText_ok_iff.mp accepted
    rw [ih later, mem_required_of_require required, ← named, or_assoc, eq_comm (a := name)]
    simp

def MakesOwn (settings : Settings) (services : Services) (engine : Engine) : Prop :=
  ∀ name registration, engine.checks.lookup name = some registration →
    registration.attest = true ∧ ∃ checkName : CheckName, checkName.name = name ∧
      Check.ofName checkName settings services = some registration.check

theorem MakesOwn.enable (own : MakesOwn settings services engine)
    (made : enable settings services engine text = .ok after) : MakesOwn settings services after := by
  obtain ⟨added, check, _, ready, rfl⟩ := enable_ok_iff.mp made
  intro name registration found
  rw [register, lookup_insert] at found
  split at found
  · rename_i here
    cases found
    exact ⟨rfl, added, here.symm, ready⟩
  · exact own name registration found

structure Configured (settings : Settings) (services : Services) (keyring : KeyRing)
    (engine : Engine) : Prop where
  metadata : engine.metadata = services.metadata
  keyring : engine.keyring = keyring
  dryRun : engine.dryRun = settings.checks.dryRun
  ordered : engine.names.Pairwise (· < ·)
  named : engine.NamedBy settings.checks.enabled
  own : MakesOwn settings services engine
  required : ∀ name, name ∈ engine.required ↔ ∃ text ∈ settings.checks.required, lowered text = name
  once : engine.required.Nodup

def unequipped (settings : Settings) (services : Services) (keyring : KeyRing) : Engine :=
  { metadata := services.metadata, keyring, dryRun := settings.checks.dryRun }

theorem foldlM_enable_frame {texts : List String} {start : Engine}
    (h : texts.foldlM (enable settings services) start = .ok after) :
    after = { start with checks := after.checks } := by
  refine foldlM_preserves (fun engine => engine = { start with checks := engine.checks }) h rfl ?_
  intro before text next _ made kept
  obtain ⟨_, _, _, _, rfl⟩ := enable_ok_iff.mp made
  rw [kept]
  rfl

theorem foldlM_enable_named {texts : List String}
    (h : texts.foldlM (enable settings services) (unequipped settings services keyring) = .ok after) :
    after.NamedBy texts := by
  have fit := (foldlM_enable_ok_iff settings _).mp ⟨after, h⟩
  intro name
  rw [foldlM_enable_names h]
  simp only [names, unequipped, List.map_nil, List.not_mem_nil, false_or, canonical_ok_iff]
  constructor
  · rintro ⟨text, member, checkName, named, rfl⟩
    exact ⟨text, member, named⟩
  · rintro ⟨text, member, rfl⟩
    obtain ⟨⟨checkName, named⟩, _⟩ := not_unfit_iff.mp (fit text member)
    exact ⟨text, member, checkName, named, named.symm⟩

theorem ofSettings_configured (made : ofSettings settings services keyring = .ok engine) :
    Configured settings services keyring engine := by
  obtain ⟨enabled, registered, required⟩ := bind_ok_iff.mp made
  have frame := foldlM_enable_frame registered
  have kept : engine = { enabled with required := engine.required } := by
    refine foldlM_preserves (fun after => after = { enabled with required := after.required }) required
      rfl ?_
    intro before text next _ accepted same
    obtain ⟨_, _, accepted⟩ := requireText_ok_iff.mp accepted
    have framed := (require_frame accepted).1
    rw [same] at framed
    exact framed
  have checks : engine.checks = enabled.checks := by rw [kept]
  have own : MakesOwn settings services enabled := by
    refine foldlM_preserves (MakesOwn settings services) registered ?_ ?_
    · intro name registration found
      cases found
    · intro _ _ _ _ made own
      exact own.enable made
  refine ⟨?_, ?_, ?_, ?_, ?_, ?_, ?_, ?_⟩
  · rw [kept, frame]
  · rw [kept, frame]
  · rw [kept, frame]
  · obtain ⟨⟨history, rfl⟩, _⟩ := ofSettings_built made
    exact build_ordered services.metadata keyring history
  · have named := foldlM_enable_named registered
    unfold NamedBy names at named ⊢
    rw [checks]
    exact named
  · unfold MakesOwn at own ⊢
    rw [checks]
    exact own
  · intro name
    rw [foldlM_requireText_required required, frame]
    simp
  · refine foldlM_preserves (fun after => after.required.Nodup) required ?_ ?_
    · rw [frame]
      exact List.nodup_nil
    · intro _ _ _ _ accepted once
      obtain ⟨_, _, accepted⟩ := requireText_ok_iff.mp accepted
      exact (require_frame accepted).2 once

theorem ofSettings_eq :
    ofSettings settings services keyring =
      (settings.checks.enabled.foldlM (enable settings services)
        (unequipped settings services keyring) >>= fun engine =>
          settings.checks.required.foldlM requireText engine) := rfl

theorem ofSettings_ok_iff :
    (∃ engine, ofSettings settings services keyring = .ok engine) ↔
      (∀ text ∈ settings.checks.enabled, ∀ e, ¬ Unfit services text e) ∧
        ∀ text ∈ settings.checks.required, ∀ e, ¬ Unmet settings.checks.enabled text e := by
  rw [← foldlM_enable_ok_iff settings (unequipped settings services keyring)]
  simp only [ofSettings_eq, bind_ok_iff]
  constructor
  · rintro ⟨engine, enabled, registered, required⟩
    have named := foldlM_enable_named registered
    exact ⟨⟨enabled, registered⟩, (foldlM_requireText_ok_iff named).mp ⟨engine, required⟩⟩
  · rintro ⟨⟨enabled, registered⟩, met⟩
    have named := foldlM_enable_named registered
    obtain ⟨engine, required⟩ := (foldlM_requireText_ok_iff named).mpr met
    exact ⟨engine, enabled, registered, required⟩

theorem ofSettings_error_iff :
    ofSettings settings services keyring = .error error ↔
      FailsFirst (Unfit services) settings.checks.enabled error ∨
        (∀ text ∈ settings.checks.enabled, ∀ e, ¬ Unfit services text e) ∧
          FailsFirst (Unmet settings.checks.enabled) settings.checks.required error := by
  rw [← foldlM_enable_ok_iff settings (unequipped settings services keyring),
    ofSettings_eq, bind_error_iff, foldlM_enable_error_iff]
  refine or_congr_right ?_
  constructor
  · rintro ⟨enabled, registered, stopped⟩
    have named := foldlM_enable_named registered
    exact ⟨⟨enabled, registered⟩, (foldlM_requireText_error_iff named).mp stopped⟩
  · rintro ⟨⟨enabled, registered⟩, stopped⟩
    have named := foldlM_enable_named registered
    exact ⟨enabled, registered, (foldlM_requireText_error_iff named).mpr stopped⟩

/-- Engines that differ in nothing but the order in which they list what they require. -/
structure Equivalent (engine other : Engine) : Prop where
  frame : other = { engine with required := other.required }
  required : ∀ name, name ∈ engine.required ↔ name ∈ other.required

section

variable {image : ImageReference} {now : Nat}

theorem step_required (engine : Engine) (required : List String) :
    Run.step { engine := { engine with required }, image, now } =
      Run.step { engine, image, now } := by
  funext run event
  cases event with
  | cancel => rfl
  | advance name =>
    simp only [Run.step]
    induction run.tasks with
    | nil => rfl
    | cons task rest ih =>
      simp only [Run.advanceNamed, ih]
      rfl

theorem runBy_required {required : List String}
    (same : ∀ name, name ∈ engine.required ↔ name ∈ required)
    (selected : List (String × Registration)) (schedule : List Event) (cancelled : Bool)
    (store : Store) :
    runBy { engine := { engine with required }, image, now } selected schedule cancelled store =
      runBy { engine, image, now } selected schedule cancelled store := by
  have verdict (results : List CheckResult) :
      Report.verdict required results = Report.verdict engine.required results :=
    Report.verdict_congr (fun name => (same name).symm) results
  simp only [runBy, Run.follow, step_required, report, verdict]

theorem Equivalent.answers {other : Engine} (equivalent : engine.Equivalent other) (request : Request)
    (course : Course) (cancelled : Bool) (store : Store) :
    engine.answer request course image now cancelled store =
      other.answer request course image now cancelled store := by
  obtain ⟨frame, same⟩ := equivalent
  rw [frame]
  cases request with
  | all => exact congrArg Except.ok (runBy_required same _ _ _ _).symm
  | named names =>
    have select : ({ engine with required := other.required } : Engine).select names =
      engine.select names := rfl
    simp only [answer, runChecksAlong, select, runBy_required same]

theorem Equivalent.verifies {other : Engine} (equivalent : engine.Equivalent other) (cancelled : Bool)
    (store : Store) :
    engine.verify image now cancelled store = other.verify image now cancelled store := by
  obtain ⟨frame, same⟩ := equivalent
  rw [frame]
  have report (results : List CheckResult) :
      ({ engine with required := other.required } : Engine).report image results =
        engine.report image results := by
    simp only [Engine.report, Report.verdict_congr same]
  unfold verify
  simp only [report]
  rfl

end

theorem MakesOwn.lookup_eq {others : Settings} {other : Engine} (own : MakesOwn settings services engine)
    (own' : MakesOwn others services other)
    (alike : ∀ name, Check.ofName name others services = Check.ofName name settings services)
    (names : engine.names = other.names) (name : String) :
    engine.checks.lookup name = other.checks.lookup name := by
  have present : (engine.checks.lookup name).isSome ↔ (other.checks.lookup name).isSome := by
    rw [← mem_names_iff, ← mem_names_iff, names]
  cases found : engine.checks.lookup name with
  | none =>
    rw [found] at present
    cases found' : other.checks.lookup name with
    | none => rfl
    | some another =>
      rw [found'] at present
      exact absurd (present.mpr rfl) (by decide)
  | some registration =>
    rw [found] at present
    obtain ⟨another, found'⟩ := Option.isSome_iff_exists.mp (present.mp rfl)
    obtain ⟨attests, checkName, named, ready⟩ := own name registration found
    obtain ⟨attests', checkName', named', ready'⟩ := own' name another found'
    obtain rfl := name_inj (named.trans named'.symm)
    rw [alike, ready] at ready'
    rw [found']
    obtain ⟨check, attest⟩ := registration
    obtain ⟨check', attest'⟩ := another
    cases ready'
    cases attests
    cases attests'
    rfl

/-- Two engines whose settings differ in the spelling of their entries are equivalent. -/
theorem Configured.equivalent {enabled required : List String} {other : Engine}
    (configured : Configured settings services keyring engine)
    (configured' : Configured { settings with checks := { settings.checks with enabled, required } }
      services keyring other)
    (sameEnabled : ∀ name, (∃ text ∈ settings.checks.enabled, lowered text = name) ↔
      ∃ text ∈ enabled, lowered text = name)
    (sameRequired : ∀ name, (∃ text ∈ settings.checks.required, lowered text = name) ↔
      ∃ text ∈ required, lowered text = name) : engine.Equivalent other := by
  have names : engine.names = other.names := by
    refine configured.ordered.eq_of_mem_iff configured'.ordered fun name => ?_
    rw [configured.named, configured'.named, sameEnabled]
  have lookup : ∀ name, engine.checks.lookup name = other.checks.lookup name := by
    refine configured.own.lookup_eq configured'.own ?_ names
    intro name
    cases name <;> rfl
  have checks : engine.checks = other.checks :=
    eq_of_lookup names (nodup_of_ordered configured.ordered) lookup
  refine ⟨?_, ?_⟩
  · have metadata := configured.metadata.trans configured'.metadata.symm
    have keyring := configured.keyring.trans configured'.keyring.symm
    have dryRun := configured.dryRun.trans configured'.dryRun.symm
    cases engine
    cases other
    simp only at checks metadata keyring dryRun
    subst checks metadata keyring dryRun
    rfl
  · intro name
    rw [configured.required, configured'.required, sameRequired]

/-- There is an engine if every enabled entry names a check that can be made, and every required entry
names an enabled check. -/
theorem ofSettings_made_iff :
    (∃ engine, ofSettings settings services keyring = .ok engine) ↔
      (∀ text ∈ settings.checks.enabled, ∃ name : CheckName, lowered text = name.name) ∧
      ((∃ text ∈ settings.checks.enabled, lowered text = CheckName.approved.name) →
        services.repository.isSome) ∧
      ∀ text ∈ settings.checks.required, ∃ name : CheckName, lowered text = name.name ∧
        ∃ other ∈ settings.checks.enabled, lowered other = name.name := by
  rw [ofSettings_ok_iff]
  simp only [not_unfit_iff, not_unmet_iff]
  constructor
  · rintro ⟨fit, met⟩
    refine ⟨fun text member => (fit text member).1, ?_, ?_⟩
    · rintro ⟨text, member, named⟩
      exact (fit text member).2 named
    · intro text member
      obtain ⟨⟨name, named⟩, other, enabled, same⟩ := met text member
      exact ⟨name, named, other, enabled, same.trans named⟩
  · rintro ⟨named, served, met⟩
    refine ⟨fun text member => ⟨named text member, fun asked => served ⟨text, member, asked⟩⟩, ?_⟩
    intro text member
    obtain ⟨name, named, other, enabled, same⟩ := met text member
    exact ⟨⟨name, named⟩, other, enabled, same.trans named.symm⟩

theorem ofSettings_respelled {enabled required : List String}
    (made : ofSettings settings services keyring = .ok engine)
    (sameEnabled : ∀ name, (∃ text ∈ settings.checks.enabled, lowered text = name) ↔
      ∃ text ∈ enabled, lowered text = name)
    (sameRequired : ∀ name, (∃ text ∈ settings.checks.required, lowered text = name) ↔
      ∃ text ∈ required, lowered text = name) :
    ∃ other, ofSettings { settings with checks := { settings.checks with enabled, required } } services
      keyring = .ok other := by
  obtain ⟨named, served, met⟩ := ofSettings_made_iff.mp ⟨engine, made⟩
  refine ofSettings_made_iff.mpr ⟨?_, ?_, ?_⟩
  · intro text member
    obtain ⟨old, listed, same⟩ := (sameEnabled _).mpr ⟨text, member, rfl⟩
    rw [← same]
    exact named old listed
  · intro asked
    exact served ((sameEnabled _).mpr asked)
  · intro text member
    obtain ⟨old, listed, same⟩ := (sameRequired _).mpr ⟨text, member, rfl⟩
    obtain ⟨name, spelled, present⟩ := met old listed
    exact ⟨name, same.symm.trans spelled, (sameEnabled _).mp present⟩

/-- There is an engine for some settings if and only if every enabled entry names a check, whatever the
case of its letters, the source can be reached where `approved` is enabled, and every required entry
names an enabled check. The engine makes and attests just the enabled checks and requires just the
required ones, so that other spellings of the entries give an equivalent engine. Without an engine, the
first entry that cannot be met is named: an unknown one as it is written, any other in lower case. -/
theorem ofSettings_spec (settings : Settings) (services : Services) (keyring : KeyRing) :
    ((∃ engine, ofSettings settings services keyring = .ok engine) ↔
      (∀ text ∈ settings.checks.enabled, ∃ name : CheckName, lowered text = name.name) ∧
      ((∃ text ∈ settings.checks.enabled, lowered text = CheckName.approved.name) →
        services.repository.isSome) ∧
      ∀ text ∈ settings.checks.required, ∃ name : CheckName, lowered text = name.name ∧
        ∃ other ∈ settings.checks.enabled, lowered other = name.name) ∧
    (∀ engine, ofSettings settings services keyring = .ok engine →
      Configured settings services keyring engine) ∧
    (∀ engine enabled required, ofSettings settings services keyring = .ok engine →
      (∀ name, (∃ text ∈ settings.checks.enabled, lowered text = name) ↔
        ∃ text ∈ enabled, lowered text = name) →
      (∀ name, (∃ text ∈ settings.checks.required, lowered text = name) ↔
        ∃ text ∈ required, lowered text = name) →
      ∃ other, ofSettings { settings with checks := { settings.checks with enabled, required } }
          services keyring = .ok other ∧ engine.Equivalent other ∧
        (∀ request course image now cancelled store,
          engine.answer request course image now cancelled store =
            other.answer request course image now cancelled store) ∧
        ∀ image now cancelled store,
          engine.verify image now cancelled store = other.verify image now cancelled store) ∧
    ∀ error, ofSettings settings services keyring = .error error ↔
      FailsFirst (Unfit services) settings.checks.enabled error ∨
        (∀ text ∈ settings.checks.enabled, ∀ e, ¬ Unfit services text e) ∧
          FailsFirst (Unmet settings.checks.enabled) settings.checks.required error := by
  refine ⟨ofSettings_made_iff, fun _ => ofSettings_configured, ?_, fun _ => ofSettings_error_iff⟩
  intro engine enabled required made sameEnabled sameRequired
  obtain ⟨other, made'⟩ := ofSettings_respelled made sameEnabled sameRequired
  have equivalent := (ofSettings_configured made).equivalent (ofSettings_configured made')
    sameEnabled sameRequired
  refine ⟨other, made', equivalent, ?_, ?_⟩
  · intro request course image now cancelled store
    exact equivalent.answers request course cancelled store
  · intro image now cancelled store
    exact equivalent.verifies cancelled store

theorem ofSettings_spec_mixedCase :
    let services : Services := { metadata := Catalogue.service {} }
    let settings : Settings :=
      { checks := { enabled := ["snakeoil", "DIY", "diy"], required := ["Diy", "SnakeOil"] } }
    let unserved : Settings := { checks := { enabled := ["diy", "Approved", "nobody"], required := [] } }
    (∃ engine, ofSettings settings services {} = .ok engine ∧ engine.names.Pairwise (· < ·) ∧
      (∀ name, name ∈ engine.names ↔ name = "snakeoil" ∨ name = "diy") ∧
      ∀ name, name ∈ engine.required ↔ name = "diy" ∨ name = "snakeoil") ∧
    ofSettings unserved services {} = .error (.missingRepositoryClient "approved") := by
  intro services settings unserved
  have mixed : lowered "DIY" = "diy" ∧ lowered "Diy" = "diy" ∧ lowered "SnakeOil" = "snakeoil" := by
    decide +kernel
  have plain : lowered "diy" = "diy" ∧ lowered "snakeoil" = "snakeoil" :=
    ⟨lowered_name .diy, lowered_name .snakeoil⟩
  constructor
  · obtain ⟨engine, made⟩ := (ofSettings_spec settings services {}).1.mpr (by
      refine ⟨?_, ?_, ?_⟩
      · simp only [settings, List.forall_mem_cons, mixed, plain]
        exact ⟨⟨.snakeoil, rfl⟩, ⟨.diy, rfl⟩, ⟨.diy, rfl⟩, by simp⟩
      · simp [settings, mixed, plain, CheckName.name]
      · simp only [settings, List.forall_mem_cons, mixed]
        exact ⟨⟨.diy, rfl, by simp [plain, CheckName.name]⟩,
          ⟨.snakeoil, rfl, by simp [plain, CheckName.name]⟩, by simp⟩)
    have configured := (ofSettings_spec settings services {}).2.1 engine made
    refine ⟨engine, made, configured.ordered, ?_, ?_⟩
    · intro name
      rw [configured.named]
      simp [settings, mixed, plain, eq_comm]
    · intro name
      rw [configured.required]
      simp [settings, mixed, eq_comm]
  · refine ((ofSettings_spec unserved services {}).2.2.2 _).mpr (.inl ?_)
    refine ⟨["diy"], "Approved", ["nobody"], rfl, ?_, .unserved (by decide +kernel) rfl⟩
    intro text member
    obtain rfl := List.mem_singleton.mp member
    exact not_unfit_iff.mpr ⟨⟨.diy, plain.1⟩, fun same => absurd same (by decide +kernel)⟩

end Engine

end Attestor
