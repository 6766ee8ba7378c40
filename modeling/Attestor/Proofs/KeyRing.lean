import Attestor.Engine.Run
import Attestor.Proofs.Associations
import Attestor.Proofs.Results
import Mathlib.Data.List.Induction

namespace Attestor

open OpenPgp Results

def Signer.ofSeed (seed : List UInt8) : Signer :=
  let publicPart : PublicKey :=
    { created := 0
      algorithm := edwardsAlgorithm
      material := 9 :: edwardsCurve ++ Integer.write (0x40 :: Ed25519.publicKey seed) }
  let facts : List Subpacket :=
    [{ critical := true, kind := Subpacket.createdKind, content := Hash.bigEndian 4 0 },
      { critical := true, kind := Subpacket.flagsKind, content := [2] }]
  let head : SignatureHead :=
    { kind := Certificate.directKind
      algorithm := edwardsAlgorithm
      hash := HashAlgorithm.sha512.code
      hashedArea := facts.flatMap Subpacket.write }
  { certificate := Certificate.ofParts { publicPart, secret := .plain seed }
      { signatures := [head.sign .sha512 seed publicPart.hashed] } }

theorem KeyRing.signer_ok_iff {ring : KeyRing} {name : String} {signer : Signer} :
    ring.signer name = .ok signer ↔ ring.signers.lookup name = some signer := by
  cases found : ring.signers.lookup name <;> simp [KeyRing.signer, found]

theorem KeyRing.lookup_put (name other : String) (signer : Signer)
    (signers : List (String × Signer)) :
    (put name signer signers).lookup other =
      if other = name then some signer else signers.lookup other := by
  induction signers with
  | nil => simp only [put, Associations.lookup_cons_ite, List.lookup_nil]
  | cons entry rest ih =>
    obtain ⟨head, old⟩ := entry
    simp only [put]
    split
    · rename_i same
      subst same
      simp only [Associations.lookup_cons_ite]
      split <;> rfl
    · rename_i different
      simp only [Associations.lookup_cons_ite, ih]
      by_cases same : other = head
      · subst same
        rw [if_pos rfl, if_neg different]
        exact (if_pos rfl).symm
      · rw [if_neg same, if_neg same]

def Secrets.key? (secrets : Secrets) (name : String) : Option String :=
  secrets.keys.reverse.lookup name

/-- A ring has the signers of the keys that its document provides, each under the name of its entry. -/
theorem KeyRing.ofSecrets_signer {secrets : Secrets} {loaded : Nat} {ring : KeyRing}
    (accepted : ofSecrets secrets loaded = .ok ring) {name : String} {signer : Signer}
    (found : ring.signer name = .ok signer) :
    ∃ armored, secrets.key? name = some armored ∧
      Signer.ofArmored name (Text.encode armored) loaded = .ok signer := by
  obtain ⟨keys⟩ := secrets
  rw [signer_ok_iff] at found
  simp only [ofSecrets, Secrets.key?] at accepted ⊢
  induction keys using List.reverseRecOn generalizing ring with
  | nil =>
    cases accepted
    cases found
  | append_singleton earlier entry ih =>
    obtain ⟨other, armored⟩ := entry
    rw [List.foldlM_append] at accepted
    obtain ⟨before, first, last⟩ := bind_ok_iff.mp accepted
    obtain ⟨after, put, same⟩ := bind_ok_iff.mp last
    cases same
    obtain ⟨added, read, made⟩ := bind_ok_iff.mp put
    cases made
    simp only [KeyRing.add, lookup_put] at found
    simp only [List.reverse_append, List.reverse_singleton, List.singleton_append,
      Associations.lookup_cons_ite]
    split at found
    · rename_i named
      cases found
      subst named
      exact ⟨armored, if_pos rfl, read⟩
    · rename_i different
      rw [if_neg different]
      exact ih found first

theorem Signer.ofArmored_name {name other : String} {armored : List UInt8} {loaded : Nat}
    {signer : Signer} (read : ofArmored name armored loaded = .ok signer) :
    ofArmored other armored loaded = .ok signer := by
  simp only [ofArmored] at read ⊢
  split at read
  · cases read
  · exact read

/-- Two checks with the same key in the document have the same signer. -/
theorem KeyRing.ofSecrets_shared {secrets : Secrets} {loaded : Nat} {ring : KeyRing}
    (accepted : ofSecrets secrets loaded = .ok ring) {first second : String} {signer other : Signer}
    (found : ring.signer first = .ok signer) (beside : ring.signer second = .ok other)
    (same : secrets.key? first = secrets.key? second) : signer = other := by
  obtain ⟨armored, provided, read⟩ := ofSecrets_signer accepted found
  obtain ⟨again, listed, made⟩ := ofSecrets_signer accepted beside
  obtain rfl : armored = again := Option.some.inj (provided.symm.trans (same.trans listed))
  exact Except.ok.inj (read.symm.trans (Signer.ofArmored_name made))

theorem KeyRing.ofSecrets_singleton {name armored : String} {now : Nat} {signer : Signer}
    (read : Signer.ofArmored name (Text.encode armored) now = .ok signer) :
    KeyRing.ofSecrets { keys := [(name, armored)] } now = .ok { signers := [(name, signer)] } :=
  bind_ok_iff.mpr ⟨_, bind_ok_iff.mpr ⟨signer, read, rfl⟩, rfl⟩

theorem KeyRing.attest_spec {ring : KeyRing} {now : Nat} {name body : String}
    {image : ImageReference} {attestation : SignedAttestation}
    (h : ring.attest now name body image = .ok attestation) :
    ∃ signer, ring.signer name = .ok signer ∧
      signer.sign now (Text.encode body) = .ok attestation.signature ∧
      attestation.checkName = name ∧ attestation.image = image.canonical ∧
      attestation.body = body ∧ attestation.keyId = signer.keyId := by
  obtain ⟨⟨signature, keyId⟩, signed, made⟩ := bind_ok_iff.mp h
  obtain ⟨signer, found, later⟩ := bind_ok_iff.mp signed
  obtain ⟨text, written, same⟩ := bind_ok_iff.mp later
  cases made
  cases same
  exact ⟨signer, found, written, rfl, rfl, rfl, rfl⟩

theorem KeyRing.attest_of_signer {ring : KeyRing} {name : String} {signer : Signer}
    (found : ring.signer name = .ok signer) (now : Nat) (body : String) (image : ImageReference) :
    ring.attest now name body image = (signer.sign now (Text.encode body)).map fun signature =>
      { checkName := name, image := image.canonical, body, signature, keyId := signer.keyId } := by
  rw [attest, sign, found]
  change (signer.sign now (Text.encode body) >>= fun signature => pure (signature, signer.keyId)) >>=
    _ = _
  generalize signer.sign now (Text.encode body) = signed
  cases signed <;> rfl

theorem KeyRing.attest_of_error {ring : KeyRing} {name : String} {error : KeyRingError}
    (missing : ring.signer name = .error error) (now : Nat) (body : String)
    (image : ImageReference) : ring.attest now name body image = .error error := by
  rw [attest, sign, missing]
  rfl

theorem Assignment.sign_of_body {assignment : Assignment} {body : String}
    (given : assignment.engine.metadata.payloadBody assignment.image = .ok body) (name : String) :
    assignment.sign name =
      (assignment.engine.keyring.attest assignment.now name body assignment.image).mapError
        .keyRing := by
  rw [sign, given]
  rfl

theorem Assignment.sign_of_error {assignment : Assignment} {error : MetadataError}
    (missing : assignment.engine.metadata.payloadBody assignment.image = .error error)
    (name : String) : assignment.sign name = .error (.metadata error) := by
  rw [sign, missing]
  rfl

theorem Assignment.sign_spec {assignment : Assignment} {name : String}
    {attestation : SignedAttestation} (h : assignment.sign name = .ok attestation) :
    ∃ signer, assignment.engine.keyring.signer name = .ok signer ∧
      assignment.engine.metadata.payloadBody assignment.image = .ok attestation.body ∧
      signer.sign assignment.now (Text.encode attestation.body) = .ok attestation.signature ∧
      attestation.checkName = name ∧ attestation.image = assignment.image.canonical ∧
      attestation.keyId = signer.keyId := by
  obtain ⟨body, given, later⟩ := bind_ok_iff.mp h
  obtain ⟨signer, found, signed, check, image, same, key⟩ :=
    KeyRing.attest_spec (mapError_ok_iff.mp later)
  refine ⟨signer, found, ?_, ?_, check, image, key⟩
  · rw [same]
    exact mapError_ok_iff.mp given
  · rw [same]
    exact signed

end Attestor
