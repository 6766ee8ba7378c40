import Attestor.Proofs.Engine.Ledger
import Attestor.Proofs.Engine.Verification
import Attestor.Proofs.Payload
import Attestor.Proofs.Signing

namespace Attestor

open OpenPgp

/-- The signatures that the signers of a ring make for an image are accepted at a later time. -/
def KeyRing.Accepts (ring : KeyRing) (image : ImageReference) (now later : Nat) : Prop :=
  ∀ name signer signature, ring.signer name = .ok signer →
    signer.sign now (Text.encode (Payload.ofImage image).body) = .ok signature →
    Detached.verify signer.publicCertificate later (Text.encode (Payload.ofImage image).body)
      (Text.encode signature) = true

theorem KeyRing.accepts_of_genuine {ring : KeyRing} {image : ImageReference} {now : Nat}
    (genuine : ∀ name signer, ring.signer name = .ok signer →
      signer.isGenuine now (Text.encode (Payload.ofImage image).body) = true ∧
        signer.certificate.isRevoked now = false) : ring.Accepts image now now := by
  intro name signer signature found signed
  obtain ⟨good, live⟩ := genuine name signer found
  obtain ⟨key, seed, chosen, small, rfl⟩ := Signer.sign_ok_iff.mp signed
  rw [Signer.verify_sign_seedAt chosen small good, live]
  rfl

namespace Store

def addEach (store : Store) (further : List (ImageReference × SignedAttestation)) : Store :=
  further.foldl (fun store (image, attestation) => store.add image attestation) store

theorem attestations_addEach (store : Store) (image : ImageReference)
    (further : List (ImageReference × SignedAttestation)) :
    ∃ more, (store.addEach further).attestations image = store.attestations image ++ more := by
  induction further generalizing store with
  | nil => exact ⟨[], (List.append_nil _).symm⟩
  | cons entry rest ih =>
    obtain ⟨other, attestation⟩ := entry
    obtain ⟨more, held⟩ := ih (store.add other attestation)
    rw [attestations_add] at held
    by_cases same : image = other
    · subst same
      rw [if_pos rfl, List.append_assoc] at held
      exact ⟨_, held⟩
    · rw [if_neg same] at held
      exact ⟨more, held⟩

end Store

/-- What is signed over the statement about an image vouches for it as long as the signature is
accepted. -/
theorem Assignment.signed_vouches {assignment : Assignment} {catalogue : Catalogue} {name : String}
    {attestation : SignedAttestation} {later : Nat}
    (recorded : assignment.engine.metadata = catalogue.service)
    (accepts : assignment.engine.keyring.Accepts assignment.image assignment.now later)
    (signed : assignment.sign name = .ok attestation) :
    ∃ signer, assignment.engine.keyring.signer name = .ok signer ∧
      attestation.Vouches signer name assignment.image later := by
  obtain ⟨signer, found, body, made, check, image, key⟩ := Assignment.sign_spec signed
  have statement : attestation.body = (Payload.ofImage assignment.image).body := by
    rw [recorded] at body
    exact (Except.ok.inj body).symm
  rw [statement] at made
  refine ⟨signer, found, check, image, key, ⟨Payload.ofImage assignment.image, ?_, rfl, rfl⟩, ?_⟩
  · rw [statement]
    exact Payload.ofBody_body _
  · rw [statement]
    exact accepts name signer _ found made

namespace Engine

variable {image : ImageReference} {now later : Nat}

/-- Attestations that are stored later do not change the result for a check that is a success. -/
theorem attestedResult_append {engine : Engine} {name : String} {list : List SignedAttestation}
    (more : List SignedAttestation)
    (success : (engine.attestedResult image now list name).success = true) :
    engine.attestedResult image now (list ++ more) name =
      engine.attestedResult image now list name := by
  unfold attestedResult at success ⊢
  split
  · rfl
  · rename_i signer found
    cases search : list.find? (·.vouches signer name image now) with
    | none =>
      simp only [found, search] at success
      cases success
    | some attestation =>
      rw [List.find?_append, search]
      rfl

variable {catalogue : Catalogue} {keyring : KeyRing} {history : List Change} {course : Course}
  {cancelled : Bool} {store : Store} {outcome : RunOutcome}

/-- What a result reports as attested stands in the store, and the key of the check vouches for it. -/
theorem Reports.vouched
    (reports : (build catalogue.service keyring history).Reports course image now cancelled store
      outcome)
    (accepts : keyring.Accepts image now later) {result : CheckResult}
    (member : result ∈ outcome.report.results) (attested : result.attested = true) :
    result.name ∈ (build catalogue.service keyring history).names ∧
      ∃ signer attestation, keyring.signer result.name = .ok signer ∧
        attestation ∈ outcome.store.attestations image ∧
        attestation.Vouches signer result.name image later := by
  obtain ⟨_, ⟨added, held, same, _⟩, endings⟩ := reports.results
  obtain ⟨registration, registered, ending⟩ := endings result member
  have some : result.attestation.isSome = true := ending.attested_iff.symm.trans attested
  obtain ⟨attestation, present⟩ := Option.isSome_iff_exists.mp some
  have signed := ending.signed_of_attestation (build_metadata ..) present
  have accepted : (build catalogue.service keyring history).keyring.Accepts image now later := by
    rw [build_keyring]
    exact accepts
  obtain ⟨signer, found, good⟩ :=
    Assignment.signed_vouches (build_metadata ..) accepted signed
  have stored : attestation ∈ outcome.report.results.filterMap CheckResult.stored? := by
    refine List.mem_filterMap.mpr ⟨result, member, ?_⟩
    rw [CheckResult.stored?, if_pos attested, present]
  refine ⟨List.mem_map.mpr ⟨_, Associations.mem_of_lookup registered, rfl⟩, signer, attestation,
    ?_, ?_, good⟩
  · rw [build_keyring] at found
    exact found
  · rw [held]
    exact Store.mem_attestations_addAll.mpr (.inr ⟨same.mem_iff.mpr stored, rfl⟩)

/-- After a run on recorded evidence, whatever the store held before, verification of its image
succeeds for every check that the run reports as attested. Attestations that are added to the store
afterwards leave each success as it is. -/
theorem verify_confirms
    (reports : (build catalogue.service keyring history).Reports course image now cancelled store
      outcome)
    (accepts : keyring.Accepts image now later) :
    ∃ report,
      (build catalogue.service keyring history).verify image later false outcome.store =
        .value report ∧
      (report.results.map (·.name)).Nodup ∧
      (∀ result ∈ outcome.report.results, result.attested = true →
        ∃ found ∈ report.results, found.name = result.name ∧ found.success = true) ∧
      ∀ further, ∃ wider,
        (build catalogue.service keyring history).verify image later false
          (outcome.store.addEach further) = .value wider ∧
        wider.results.map (·.name) = report.results.map (·.name) ∧
        ∀ found ∈ report.results, found.success = true → found ∈ wider.results := by
  let engine := build catalogue.service keyring history
  have verified (store : Store) : engine.verify image later false store = .value
      (engine.report image
        (engine.names.map (engine.attestedResult image later (store.attestations image)))) :=
    verify_value (by rw [build_metadata]; rfl)
  have names (list : List SignedAttestation) :
      (engine.names.map (engine.attestedResult image later list)).map (·.name) = engine.names := by
    rw [List.map_map]
    refine (List.map_congr_left fun name _ => ?_).trans (List.map_id _)
    exact (attestedResult_verdict engine image later list name).name_eq
  refine ⟨_, verified outcome.store, ?_, ?_, ?_⟩
  · simp only [report, names]
    exact nodup_of_ordered (build_ordered ..)
  · intro result member attested
    obtain ⟨registered, signer, attestation, found, filed, good⟩ :=
      reports.vouched accepts member attested
    have ring : engine.keyring.signer result.name = .ok signer := by
      rw [build_keyring]
      exact found
    obtain ⟨first, confirmed⟩ := attestedResult_vouched ring filed good
    exact ⟨_, List.mem_map_of_mem registered, by rw [confirmed]; exact ⟨rfl, rfl⟩⟩
  · -- The list of the image only grows at its end, after the attestation that was found.
    intro further
    obtain ⟨more, held⟩ := outcome.store.attestations_addEach image further
    refine ⟨_, verified _, ?_, ?_⟩
    · simp only [report, names]
    · intro found member success
      obtain ⟨name, registered, rfl⟩ := List.mem_map.mp member
      refine List.mem_map.mpr ⟨name, registered, ?_⟩
      rw [held]
      exact attestedResult_append more success

def sampleImage : ImageReference :=
  { name := "docker.io/library/app"
    digest := "sha256:73d506a23331fce5cb6f49bfb4c27450d2ef4878efce89f03a46b27372a88430" }

theorem bare_genuine :
    let signer := Signer.ofSeed (List.replicate 32 7)
    (Signer.seedAt? signer.certificate 5).isSome = true ∧
      signer.isGenuine 5 (Text.encode (Payload.ofImage sampleImage).body) = true ∧
      signer.certificate.isRevoked 5 = false := by
  decide +kernel

/-- Verification confirms what the bare engine attests, with an attestation by nobody before and after
it in the store. -/
theorem verify_confirms_bare :
    let forged : SignedAttestation :=
      { checkName := "diy", image := "", body := "", signature := "", keyId := "" }
    ∃ outcome,
      bare.Reports Run.onOneThread sampleImage 5 false (Store.add {} sampleImage forged) outcome ∧
      ∃ report,
        bare.verify sampleImage 5 false (outcome.store.addEach [(sampleImage, forged)]) =
          .value report ∧
        ∃ found ∈ report.results, found.name = "diy" ∧ found.success = true := by
  intro forged
  have ends : (bare.runAlong Run.onOneThread sampleImage 5 false
      (Store.add {} sampleImage forged)).any
      (fun outcome => outcome.report.results.any fun result =>
        result.name = "diy" && result.attested) := by
    decide +kernel
  obtain ⟨outcome, ran, made⟩ := (Option.any_eq_true _ _).mp ends
  obtain ⟨result, member, attested⟩ := List.any_eq_true.mp made
  rw [Bool.and_eq_true, decide_eq_true_eq] at attested
  have accepts : bare.keyring.Accepts sampleImage 5 5 := by
    refine KeyRing.accepts_of_genuine fun name signer found => ?_
    have entry := Associations.mem_of_lookup (KeyRing.signer_ok_iff.mp found)
    obtain ⟨-, rfl⟩ := Prod.mk.inj (List.mem_singleton.mp entry)
    exact bare_genuine.2
  obtain ⟨report, _, _, confirmed, later⟩ := verify_confirms (.inl ran) accepts
  obtain ⟨found, reported, same, success⟩ := confirmed result member attested.2
  obtain ⟨wider, verified, _, kept⟩ := later [(sampleImage, forged)]
  exact ⟨outcome, .inl ran, wider, verified, found, kept found reported success,
    same.trans attested.1, success⟩

end Engine

end Attestor
