import Attestor.Proofs.Engine.Neutrality
import Attestor.Proofs.Policy.Calls

namespace Attestor

def CheckError.isAbsence : CheckError → Bool
  | .metadata (.absent ..) => true
  | _ => false

theorem Check.ofFault_eq (name : CheckName) (fault : CheckError) :
    ofFault name fault =
      if name = .provenance ∧ fault.isAbsence = true then .rejected .noBuildDetail else fault := by
  unfold ofFault
  split
  · rfl
  · rename_i other
    refine (if_neg ?_).symm
    rintro ⟨rfl, absent⟩
    unfold CheckError.isAbsence at absent
    split at absent
    · exact other _ _ rfl rfl
    · cases absent

theorem Services.fault_evidence {services : Services} {call : Call} {fault : CheckError}
    (found : services.fault? call = some fault) : FailureKind.ofCheckError fault = .evidence := by
  cases call with
  | vulnerabilities | buildDetail =>
    obtain ⟨error, _, rfl⟩ := Option.map_eq_some_iff.mp found
    rfl
  | commit | defaultBranch =>
    obtain ⟨repository, _, failed⟩ := Option.bind_eq_some_iff.mp found
    obtain ⟨error, _, rfl⟩ := Option.map_eq_some_iff.mp failed
    rfl

/-- A result says what became of the calls that a check of the library makes: whether one of them failed,
or whether the image was judged by their answers. -/
structure CheckResult.Classifies (result : CheckResult) (services : Services) (image : ImageReference)
    (name : CheckName) : Prop where
  passes : result.success = true → ∀ call ∈ Check.calls services image name,
    services.fault? call = none
  fails : ∀ call ∈ Check.calls services image name, ∀ fault, services.fault? call = some fault →
    result.success = false ∧
      result.failure = some
        (if name = .provenance ∧ fault.isAbsence = true then .rejected else .evidence) ∧
      result.error = some
        (if name = .provenance ∧ fault.isAbsence = true then Rejection.noBuildDetail.message
        else fault.explanation)
  judges : (∀ call ∈ Check.calls services image name, services.fault? call = none) →
    result.success = true ∧ result.failure = none ∨
      result.success = false ∧ result.failure = some .rejected

theorem CheckResult.decided_passed {result : CheckResult} {label : String}
    (decided : some result.withoutAttestation = decided? label (.value ())) :
    result.success = true ∧ result.failure = none := by
  have same := Option.some.inj decided
  exact ⟨congrArg CheckResult.success same, congrArg CheckResult.failure same⟩

theorem CheckResult.decided_failed {result : CheckResult} {label : String} {error : CheckError}
    (decided : some result.withoutAttestation = decided? label (.failure error)) :
    result.success = false ∧ result.failure = some (.ofCheckError error) ∧
      result.error = some error.explanation := by
  have same := Option.some.inj decided
  exact ⟨congrArg CheckResult.success same, congrArg CheckResult.failure same,
    congrArg CheckResult.error same⟩

theorem Check.Heeds.classifies {services : Services} {image : ImageReference} {name : CheckName}
    {label : String} {verdict : Verdict} {result : CheckResult}
    (heeds : Heeds services (ofFault name) (calls services image name) verdict)
    (decided : some result.withoutAttestation = CheckResult.decided? label verdict) :
    result.Classifies services image name := by
  refine ⟨?_, ?_, ?_⟩
  · intro succeeded
    refine heeds.passes ?_
    cases verdict with
    | value => rfl
    | never => cases decided
    | failure error =>
      obtain ⟨failed, _⟩ := CheckResult.decided_failed decided
      rw [succeeded] at failed
      cases failed
  · intro call made fault found
    rw [heeds.fails call made fault found] at decided
    obtain ⟨failed, kind, error⟩ := CheckResult.decided_failed decided
    refine ⟨failed, ?_, ?_⟩
    · rw [kind, ofFault_eq]
      split
      · rfl
      · rw [Services.fault_evidence found]
    · rw [error, ofFault_eq]
      split <;> rfl
  · intro faultless
    rcases heeds.settles faultless with rfl | ⟨reason, rfl⟩
    · exact .inl (CheckResult.decided_passed decided)
    · obtain ⟨failed, kind, _⟩ := CheckResult.decided_failed decided
      exact .inr ⟨failed, kind⟩

/-- A check ends with what it decides, or it is stopped before it decides. -/
theorem Ending.decided {assignment : Assignment} {name : String} {registration : Registration}
    {result : CheckResult} (ending : Ending assignment name registration result) :
    result = .failed name .cancelled "check cancelled" ∨
      some result.withoutAttestation =
        CheckResult.decided? name (registration.check.decide assignment.image) := by
  rcases ending.alone_or_cancelled with comes | stopped | ⟨decided, _, _, rfl⟩
  · exact .inr comes.decided
  · exact .inl stopped
  · exact .inr (by rw [decided]; rfl)

namespace Engine

/-- Every result that answers a request is what the check under its name decides, unless the run was
cancelled before that. -/
theorem answer_decided {engine : Engine} {request : Request} {course : Course} {image : ImageReference}
    {now : Nat} {cancelled : Bool} {store : Store} {outcome : RunOutcome} {result : CheckResult}
    (ordered : engine.names.Pairwise (· < ·))
    (answered : engine.answer request course image now cancelled store = .ok (some outcome))
    (member : result ∈ outcome.report.results) :
    ∃ registration, engine.checks.lookup result.name = some registration ∧
      (outcome.cancelled = true ∧ result = .failed result.name .cancelled "check cancelled" ∨
        some result.withoutAttestation =
          CheckResult.decided? result.name (registration.check.decide image)) := by
  obtain ⟨selected, selects, ran⟩ := answer_report ordered answered
  cases quiet : outcome.cancelled with
  | false =>
    obtain ⟨⟨name, registration⟩, chosen, comes, _⟩ :=
      exists_left_of_mem (runBy_alone ran quiet) member
    obtain rfl := comes.ending.name_eq
    exact ⟨registration, selects.registered _ chosen, .inr comes.decided⟩
  | true =>
    obtain ⟨registration, chosen, ending⟩ := endings_mem (runBy_endings ran) member
    refine ⟨registration, selects.registered _ chosen, ?_⟩
    rcases ending.decided with stopped | decided
    · exact .inl ⟨rfl, stopped⟩
    · exact .inr decided

/-- A check of the library passes only if every call that it makes succeeds. If one fails, the result of
the check says that evidence could not be had; only an absent build is held against the image, and only
by `provenance`. If none fails, the check passes or rejects the image. -/
theorem answer_classifies {service : MetadataService} {keyring : KeyRing} {history : List Change}
    {name : String} {registration : Registration} {builtIn : CheckName} {settings : Settings}
    {services : Services}
    (found : (build service keyring history).checks.lookup name = some registration)
    (made : Check.ofName builtIn settings services = some registration.check)
    (answering : services.Answering) (image : ImageReference) :
    let engine := build service keyring history
    (∀ call, call ∈ Check.calls services image builtIn ↔
      ∃ check, Check.ofName builtIn settings (services.silencing call) = some check ∧
        check.decide image = .never) ∧
    (∀ request course now cancelled store outcome,
      engine.answer request course image now cancelled store = .ok (some outcome) →
      ∀ result ∈ outcome.report.results, result.name = name →
        outcome.cancelled = true ∧ result = .failed name .cancelled "check cancelled" ∨
          result.Classifies services image builtIn) ∧
    ((∀ attestation store, service.submit image attestation store ≠ .never) →
      ∀ now store, ∃ result,
        engine.Gives (.named [name]) Run.onOneThread image now store [result] ∧
          result.Classifies services image builtIn) := by
  intro engine
  have ordered : engine.names.Pairwise (· < ·) := build_ordered service keyring history
  have heeds := Check.ofName_heeds answering made image
  have classified : ∀ request course now cancelled store outcome,
      engine.answer request course image now cancelled store = .ok (some outcome) →
      ∀ result ∈ outcome.report.results, result.name = name →
        outcome.cancelled = true ∧ result = .failed name .cancelled "check cancelled" ∨
          result.Classifies services image builtIn := by
    intro request course now cancelled store outcome answered result member named
    obtain ⟨other, found', ends⟩ := answer_decided ordered answered member
    rw [named] at found' ends
    obtain rfl := Option.some.inj (found.symm.trans found')
    rcases ends with stopped | decided
    · exact .inl stopped
    · exact .inr (heeds.classifies decided)
  refine ⟨?_, classified, ?_⟩
  · intro call
    obtain ⟨check, ready, decides⟩ := Check.ofName_silencing made image call
    rw [ready]
    simp only [Option.some.injEq, exists_eq_left', decides]
    by_cases asked : call ∈ Check.calls services image builtIn
    · simp [asked]
    · simp [asked, heeds.ends]
  · intro submits now store
    obtain ⟨results, gives⟩ : ∃ results,
        engine.Gives (.named [name]) Run.onOneThread image now store results := by
      refine gives_results store ordered (Run.onOneThread_givesTurns _)
        (Run.onOneThread_uncancelled _) ?_
      intro other asked
      rw [requested_named_singleton, List.mem_singleton] at asked
      subst asked
      refine ⟨registration, found,
        Assignment.endsAlone_of_answers ?_ (Check.ofName_leaves made) heeds.ends⟩
      rw [build_metadata]
      exact submits
    have names := gives.names ordered
    rw [requested_named_singleton] at names
    obtain ⟨result, rfl, named⟩ := List.map_eq_singleton_iff.mp names
    refine ⟨result, gives, ?_⟩
    obtain ⟨outcome, answered, quiet, reported⟩ := gives
    rcases classified _ _ _ _ _ outcome answered result (by simp [reported]) named with
      ⟨cancelled, _⟩ | classifies
    · rw [quiet] at cancelled
      cases cancelled
    · exact classifies

/-- The commit that an image was built from is not known: no ground to reject the image. Nor is its
build, and for `provenance` that is one. -/
theorem answer_classifies_missing :
    let image : ImageReference := { name := "gcr.io/project/app", digest := "sha256:ab" }
    let detail : BuildDetail := { repositoryUrl := "https://github.com/grafeas/voucher", commit := "abc" }
    let built : Services := {
      metadata := Catalogue.service { entries := [(image, { buildDetail := some detail })] }
      repository := some (RepositoryEvidence.service {}) }
    let bare : Services := { metadata := Catalogue.service {} }
    let history : List Change := [
      .register "approved" { decide := Policy.approved built.metadata (RepositoryEvidence.service {}) },
      .register "provenance" { decide := Policy.provenance bare.metadata [] [] }]
    let engine := build (Catalogue.service {}) {} history
    (∃ result, engine.Gives (.named ["approved"]) Run.onOneThread image 5 {} [result] ∧
      result.failure = some .evidence) ∧
    ∃ result, engine.Gives (.named ["provenance"]) Run.onOneThread image 5 {} [result] ∧
      result.failure = some .rejected := by
  intro image detail built bare history engine
  have submits : ∀ attestation store,
      (Catalogue.service {}).submit image attestation store ≠ .never := by
    simp [Catalogue.service]
  have found : built.metadata.buildDetail image = .value detail := by
    simp [built, Catalogue.service, Catalogue.buildDetail, Catalogue.evidence?]
  constructor
  · have registered : engine.checks.lookup "approved" = some _ := rfl
    have made : Check.ofName .approved {} built = some _ := rfl
    obtain ⟨_, _, answered⟩ :=
      answer_classifies registered made (Services.answering_recorded _ (some {})) image
    obtain ⟨result, gives, classifies⟩ := answered submits 5 {}
    obtain ⟨_, failure, _⟩ := classifies.fails (.commit detail) (by simp [Check.calls, found])
      (.repository (.commitNotFound detail.commitUrl)) rfl
    exact ⟨result, gives, failure⟩
  · have registered : engine.checks.lookup "provenance" = some _ := rfl
    have made : Check.ofName .provenance {} bare = some _ := rfl
    obtain ⟨_, _, answered⟩ :=
      answer_classifies registered made (Services.answering_recorded _ none) image
    obtain ⟨result, gives, classifies⟩ := answered submits 5 {}
    obtain ⟨_, failure, _⟩ := classifies.fails (.buildDetail image) (by simp [Check.calls]) _ rfl
    exact ⟨result, gives, failure⟩

end Engine

end Attestor
