import Attestor.Proofs.Policy.Gates

namespace Attestor

inductive Call where
  | vulnerabilities (image : ImageReference)
  | buildDetail (image : ImageReference)
  | commit (detail : BuildDetail)
  | defaultBranch (detail : BuildDetail)
deriving DecidableEq

namespace Reply

variable {ε δ α β : Type}

def error? : Reply ε α → Option ε
  | .failure e => some e
  | _ => none

theorem silenced_bind {condition : Prop} [Decidable condition] (reply : Reply ε α) (f : ε → δ)
    (next : α → Reply δ β) :
    (if condition then .never else reply).mapError f >>= next =
      if condition then .never else reply.mapError f >>= next := by
  split <;> rfl

end Reply

namespace Services

def fault? (services : Services) : Call → Option CheckError
  | .vulnerabilities image => (services.metadata.vulnerabilities image).error?.map .metadata
  | .buildDetail image => (services.metadata.buildDetail image).error?.map .metadata
  | .commit detail => services.repository.bind fun repository =>
    (repository.commit detail).error?.map .repository
  | .defaultBranch detail => services.repository.bind fun repository =>
    (repository.defaultBranch detail).error?.map .repository

structure Answering (services : Services) : Prop where
  vulnerabilities : ∀ image, services.metadata.vulnerabilities image ≠ .never
  buildDetail : ∀ image, services.metadata.buildDetail image ≠ .never
  commit : ∀ repository, services.repository = some repository →
    ∀ detail, repository.commit detail ≠ .never
  defaultBranch : ∀ repository, services.repository = some repository →
    ∀ detail, repository.defaultBranch detail ≠ .never

/-- The services, but that they never answer one call. -/
def silencing (services : Services) (call : Call) : Services where
  metadata := { services.metadata with
    vulnerabilities := fun image =>
      if call = .vulnerabilities image then .never else services.metadata.vulnerabilities image
    buildDetail := fun image =>
      if call = .buildDetail image then .never else services.metadata.buildDetail image }
  repository := services.repository.map fun repository => {
    commit := fun detail => if call = .commit detail then .never else repository.commit detail
    defaultBranch := fun detail =>
      if call = .defaultBranch detail then .never else repository.defaultBranch detail }

theorem answering_recorded (catalogue : Catalogue) (evidence : Option RepositoryEvidence) :
    Answering { metadata := catalogue.service, repository := evidence.map (·.service) } := by
  refine ⟨?_, ?_, ?_, ?_⟩
  · intro image
    simp only [Catalogue.service, Catalogue.vulnerabilities]
    split <;> simp
  · intro image
    simp only [Catalogue.service, Catalogue.buildDetail]
    split <;> simp
  · intro repository present detail
    obtain ⟨recorded, _, rfl⟩ := Option.map_eq_some_iff.mp present
    simp only [RepositoryEvidence.service, RepositoryEvidence.commit]
    split <;> simp
  · intro repository present detail
    obtain ⟨recorded, _, rfl⟩ := Option.map_eq_some_iff.mp present
    simp only [RepositoryEvidence.service, RepositoryEvidence.defaultBranch]
    split <;> simp

end Services

namespace Check

/-- The calls that a check makes on an image, in order. -/
def calls (services : Services) (image : ImageReference) : CheckName → List Call
  | .diy => []
  | .org | .provenance => [.buildDetail image]
  | .snakeoil => [.vulnerabilities image]
  | .approved =>
    .buildDetail image ::
      match services.metadata.buildDetail image with
      | .value detail =>
        .commit detail ::
          if services.fault? (.commit detail) = none then [.defaultBranch detail] else []
      | _ => []

/-- The error that a check ends with after a fault. -/
def ofFault : CheckName → CheckError → CheckError
  | .provenance, .metadata (.absent ..) => .rejected .noBuildDetail
  | _, fault => fault

/-- A verdict goes by the faults of some calls. -/
structure Heeds (services : Services) (report : CheckError → CheckError) (calls : List Call)
    (verdict : Verdict) : Prop where
  fails : ∀ call ∈ calls, ∀ fault, services.fault? call = some fault →
    verdict = .failure (report fault)
  settles : (∀ call ∈ calls, services.fault? call = none) → verdict.Settled

section

variable {services : Services} {report : CheckError → CheckError} {verdict : Verdict}

theorem Heeds.of_settled (settled : verdict.Settled) : Heeds services report [] verdict where
  fails := by simp
  settles := fun _ => settled

/-- A verdict that goes on with the answer to a call goes by the fault of that call, and else by those
of the calls that come after it. -/
theorem Heeds.ask {ε α : Type} {call : Call} {later : List Call} {reply : Reply ε α}
    (wrap : ε → CheckError) {next : α → Verdict}
    (asked : services.fault? call = reply.error?.map wrap) (answered : reply ≠ .never)
    (stops : ∀ error, reply = .failure error → later = [])
    (continues : ∀ a, reply = .value a → Heeds services report later (next a)) :
    Heeds services report (call :: later) (reply.mapError (report ∘ wrap) >>= next) := by
  cases reply with
  | never => exact absurd rfl answered
  | failure error =>
    rw [stops error rfl]
    constructor
    · intro made member fault found
      rw [List.mem_singleton.mp member, asked] at found
      cases found
      rfl
    · intro faultless
      have none_ := faultless call (List.mem_cons_self ..)
      rw [asked] at none_
      cases none_
  | value a =>
    have heeds := continues a rfl
    have sound : services.fault? call = none := asked
    constructor
    · intro made member fault found
      rcases List.mem_cons.mp member with rfl | behind
      · rw [sound] at found
        cases found
      · exact heeds.fails made behind fault found
    · intro faultless
      exact heeds.settles fun made behind => faultless made (List.mem_cons_of_mem _ behind)

theorem Heeds.faultless {calls : List Call} (heeds : Heeds services report calls verdict)
    (sound : ∀ error, verdict ≠ .failure error) : ∀ call ∈ calls, services.fault? call = none := by
  intro call made
  cases found : services.fault? call with
  | none => rfl
  | some fault => exact absurd (heeds.fails call made fault found) (sound _)

theorem Heeds.passes {calls : List Call} (heeds : Heeds services report calls verdict)
    (passed : verdict = .value ()) : ∀ call ∈ calls, services.fault? call = none := by
  refine heeds.faultless fun error failed => ?_
  rw [passed] at failed
  cases failed

theorem Heeds.ends {calls : List Call} (heeds : Heeds services report calls verdict) :
    verdict ≠ .never := by
  rintro rfl
  rcases heeds.settles (heeds.faultless fun error failed => by cases failed) with
    passed | ⟨reason, rejected⟩
  · cases passed
  · cases rejected

end

variable {services : Services} {image : ImageReference} {name : CheckName} {settings : Settings}
  {check : Check}

theorem approved_heeds {repository : RepositoryService} (answering : services.Answering)
    (present : services.repository = some repository) :
    Heeds services (ofFault .approved) (calls services image .approved)
      (Policy.approved services.metadata repository image) := by
  unfold Policy.approved calls
  refine Heeds.ask .metadata rfl (answering.buildDetail image) ?_ ?_
  · intro error absent
    rw [absent]
  · intro detail built
    rw [built]
    refine Heeds.ask .repository (by simp [Services.fault?, present])
      (answering.commit repository present detail) ?_ ?_
    · intro error missing
      simp [Services.fault?, present, missing, Reply.error?]
    · intro commit found
      have sound : services.fault? (.commit detail) = none := by
        simp [Services.fault?, present, found, Reply.error?]
      rw [if_pos sound]
      refine Heeds.ask .repository (by simp [Services.fault?, present])
        (answering.defaultBranch repository present detail) (fun _ _ => rfl) ?_
      intro branch _
      exact .of_settled (Policy.settled_reviewed commit branch)

theorem ofName_leaves (made : ofName name settings services = some check) : check.cancels = false := by
  cases name with
  | approved =>
    obtain ⟨repository, _, rfl⟩ := Option.map_eq_some_iff.mp made
    rfl
  | diy | org | provenance | snakeoil =>
    cases made
    rfl

/-- A check of the library goes by the faults of the calls that it makes. -/
theorem ofName_heeds (answering : services.Answering)
    (made : ofName name settings services = some check) (image : ImageReference) :
    Heeds services (ofFault name) (calls services image name) (check.decide image) := by
  cases name with
  | approved =>
    obtain ⟨repository, present, rfl⟩ := Option.map_eq_some_iff.mp made
    exact approved_heeds answering present
  | diy =>
    cases made
    exact .of_settled (Verdict.settled_require _ _)
  | org =>
    cases made
    refine Heeds.ask .metadata rfl (answering.buildDetail image) (fun _ _ => rfl) ?_
    intro detail _
    exact .of_settled (Verdict.settled_require _ _)
  | provenance =>
    cases made
    have reported : Policy.provenBuild services.metadata image =
        (services.metadata.buildDetail image).mapError (ofFault .provenance ∘ .metadata) := by
      unfold Policy.provenBuild
      congr
      funext error
      cases error <;> rfl
    simp only [Policy.provenance, reported]
    refine Heeds.ask .metadata rfl (answering.buildDetail image) (fun _ _ => rfl) ?_
    intro detail _
    exact .of_settled ((Verdict.settled_require _ _).bind
      ((Verdict.settled_require _ _).bind (Verdict.settled_require _ _)))
  | snakeoil =>
    cases made
    refine Heeds.ask .metadata rfl (answering.vulnerabilities image) (fun _ _ => rfl) ?_
    intro scan _
    exact .of_settled (Policy.settled_scanned _ scan)

/-- Without the answer to a call a check never decides if it makes the call, and else decides as it
does. -/
theorem ofName_silencing (made : ofName name settings services = some check) (image : ImageReference)
    (call : Call) :
    ∃ other, ofName name settings (services.silencing call) = some other ∧
      other.decide image = if call ∈ calls services image name then .never else check.decide image := by
  cases name with
  | approved =>
    obtain ⟨repository, present, rfl⟩ := Option.map_eq_some_iff.mp made
    refine ⟨_, congrArg (Option.map _) (congrArg (Option.map _) present), ?_⟩
    have faultOf (detail : BuildDetail) : services.fault? (.commit detail) =
        (repository.commit detail).error?.map .repository := by
      simp [Services.fault?, present]
    simp only [Services.silencing, Policy.approved, Reply.silenced_bind, calls, faultOf]
    cases services.metadata.buildDetail image with
    | failure error => simp only [Reply.mapError, Reply.failure_bind, List.mem_singleton]
    | never => simp only [Reply.mapError, Reply.never_bind, List.mem_singleton]
    | value detail =>
      by_cases first : call = .buildDetail image
      · simp [first]
      simp only [Reply.mapError, Reply.value_bind, List.mem_cons, first, if_false, false_or]
      cases repository.commit detail with
      | failure error => simp [Reply.failure_bind, Reply.error?]
      | never => simp [Reply.never_bind, Reply.error?]
      | value commit =>
        by_cases second : call = .commit detail
        · simp [second, Reply.error?]
        simp [Reply.value_bind, Reply.error?, second]
  | diy =>
    cases made
    exact ⟨_, rfl, by simp [calls]⟩
  | org =>
    cases made
    exact ⟨_, rfl, by
      simp only [Services.silencing, Policy.org, Reply.silenced_bind, calls, List.mem_singleton]⟩
  | provenance =>
    cases made
    exact ⟨_, rfl, by
      simp only [Services.silencing, Policy.provenance, Policy.provenBuild, Reply.silenced_bind, calls,
        List.mem_singleton]⟩
  | snakeoil =>
    cases made
    exact ⟨_, rfl, by
      simp only [Services.silencing, Policy.snakeoil, Reply.silenced_bind, calls,
        List.mem_singleton]⟩

end Check

end Attestor
