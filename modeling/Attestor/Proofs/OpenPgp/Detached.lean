import Attestor.OpenPgp.Detached
import Attestor.Proofs.OpenPgp.Armor
import Attestor.Proofs.OpenPgp.Signature
import Attestor.Proofs.OpenPgp.Validity

namespace Attestor.OpenPgp

open Hash

def Version.fingerprintSize : Version → Nat
  | four => 20
  | six => 32

theorem PublicKey.length_fingerprint (key : PublicKey) :
    key.fingerprint.length = key.version.fingerprintSize := by
  rw [PublicKey.fingerprint]
  cases key.version with
  | four =>
    dsimp only
    rw [Sha1.digest, length_words]
    rfl
  | six =>
    dsimp only
    rw [Sha256.digest256, Sha256.bytes, length_words]
    rfl

theorem PublicKey.length_keyId (key : PublicKey) : key.keyId.length = 8 := by
  have size := key.length_fingerprint
  rw [PublicKey.keyId]
  cases version : key.version with
  | four =>
    dsimp only
    rw [List.length_drop, size, version]
    rfl
  | six =>
    dsimp only
    rw [List.length_take, size, version]
    rfl

theorem PublicKey.algorithm_of_point {key : PublicKey} {point : List UInt8}
    (pointed : key.point? = some point) :
    (if isPlain key.algorithm then plainEdwardsAlgorithm else edwardsAlgorithm) = key.algorithm := by
  rw [point?] at pointed
  split at pointed
  · rename_i same
    rw [same]
    rfl
  · obtain ⟨⟨curve, rest⟩, _, later⟩ := Option.bind_eq_some_iff.mp pointed
    obtain ⟨⟨number, last⟩, _, made⟩ := Option.bind_eq_some_iff.mp later
    dsimp only at made
    split at made
    · split at made
      · rename_i fits
        rw [fits.1]
        rfl
      · cases made
    · cases made

namespace Detached

def fingerprintFact (key : PublicKey) : Subpacket :=
  { critical := false
    kind := Subpacket.issuerFingerprintKind
    content := UInt8.ofNat key.version.number :: key.fingerprint }

theorem issuerFacts_cases (key : PublicKey) :
    issuerFacts key = [{ critical := false, kind := Subpacket.issuerKind, content := key.keyId },
        fingerprintFact key] ∨
      issuerFacts key = [fingerprintFact key] := by
  rw [issuerFacts, fingerprintFact]
  cases key.version with
  | four => exact .inl rfl
  | six => exact .inr rfl

theorem length_fingerprint_le (key : PublicKey) : key.fingerprint.length ≤ 32 := by
  rw [PublicKey.length_fingerprint]
  cases key.version <;> decide

theorem facts_fit (key : PublicKey) (now : Nat) : ∀ fact ∈ facts key now, fact.Fits := by
  have created : Subpacket.createdKind < 128 := by decide
  have issuer : Subpacket.issuerKind < 128 := by decide
  have fingerprint : (fingerprintFact key).Fits := by
    have short := length_fingerprint_le key
    refine ⟨(by decide : Subpacket.issuerFingerprintKind < 128), ?_⟩
    simp only [fingerprintFact, List.length_cons]
    omega
  intro fact member
  rw [facts] at member
  rcases issuerFacts_cases key with stated | stated
  · simp only [stated, List.mem_cons, List.not_mem_nil, or_false] at member
    rcases member with rfl | rfl | rfl
    · exact ⟨created, by simp⟩
    · exact ⟨issuer, by simp [PublicKey.length_keyId]⟩
    · exact fingerprint
  · simp only [stated, List.mem_cons, List.not_mem_nil, or_false] at member
    rcases member with rfl | rfl
    · exact ⟨created, by simp⟩
    · exact fingerprint

theorem length_hashedArea (key : PublicKey) (now : Nat) : (head key now).hashedArea.length < 64 := by
  have short := length_fingerprint_le key
  rcases issuerFacts_cases key with stated | stated
  · simp only [head, facts, stated, fingerprintFact, Subpacket.write, PublicKey.length_keyId,
      List.flatMap_cons, List.flatMap_nil, List.length_append, List.length_cons, List.length_nil,
      length_bigEndian]
    omega
  · simp only [head, facts, stated, fingerprintFact, Subpacket.write, List.flatMap_cons,
      List.flatMap_nil, List.length_append, List.length_cons, List.length_nil, length_bigEndian]
    omega

theorem head_states (key : PublicKey) (now : Nat) : (head key now).States (facts key now) where
  kind := (by decide : binaryKind < 256)
  algorithm := by
    simp only [head]
    split
    · exact .inr rfl
    · exact .inl rfl
  hash := (by decide : HashAlgorithm.sha512.code < 256)
  area := rfl
  fit := facts_fit key now
  short := Nat.lt_trans (length_hashedArea key now) (by decide)
  salt := by
    simp only [head, SignatureHead.saltBytes]
    cases key.version <;> rfl

def signature (key : PublicKey) (seed : List UInt8) (now : Nat) (body : List UInt8) : Signature :=
  (head key now).signature (facts key now)
    (Ed25519.sign seed (HashAlgorithm.sha512.digest ((head key now).covered body)))

section

variable (key : PublicKey) (seed : List UInt8) (now : Nat) (body : List UInt8)

theorem length_saltBytes : (head key now).saltBytes.length ≤ 33 := by
  simp only [head, SignatureHead.saltBytes]
  cases key.version <;> decide

theorem length_numberBytes {numbers : List UInt8} (size : numbers.length = 64) (head : SignatureHead) :
    (head.numberBytes numbers).length ≤ 68 := by
  have first := Integer.length_trim_le (numbers.take 32)
  have second := Integer.length_trim_le (numbers.drop 32)
  rw [List.length_take, size] at first
  rw [List.length_drop, size] at second
  rw [SignatureHead.numberBytes]
  split
  · simp only [Integer.write, List.length_append, length_bigEndian]
    omega
  · omega

theorem packet_fits :
    Packet.Fits { tag := Packet.signatureTag, body := (head key now).sign .sha512 seed body } where
  tag := (by decide : Packet.signatureTag < 64)
  body := by
    have area := length_hashedArea key now
    have salt := length_saltBytes key now
    have numbers := length_numberBytes (Ed25519.length_sign seed
      (HashAlgorithm.sha512.digest ((head key now).covered body))) (head key now)
    have size : (head key now).version.areaSize ≤ 4 := by
      cases (head key now).version <;> decide
    simp only [SignatureHead.sign, SignatureHead.bytes, List.length_append, List.length_cons,
      List.length_nil, length_bigEndian, List.length_take, Nat.pow_eq]
    omega

theorem signatures_sign :
    (Packet.ofBlock? (Text.encode (sign key seed now body))).bind signatures? =
      some [signature key seed now body] := by
  have read : Signature.read? ((head key now).sign .sha512 seed body) =
      some (signature key seed now body) :=
    Signature.read_sign (head_states key now) .sha512 seed body
  simp only [sign, Packet.ofBlock_write, Packet.readAll_write (packet_fits key seed now body),
    Option.bind_some]
  simp [signatures?, read]

theorem verify_sign (certificate : Certificate) (time : Nat) :
    verify certificate time body (Text.encode (sign key seed now body)) =
      isGood certificate time body (signature key seed now body) := by
  rw [verify, signatures_sign]
  simp

theorem hashed_signature : (signature key seed now body).hashed = facts key now := rfl

theorem facts_signature :
    (signature key seed now body).fact? Subpacket.createdKind = some (bigEndian 4 now) ∧
      (signature key seed now body).fact? Subpacket.lifetimeKind = none ∧
      (signature key seed now body).understood = true := by
  simp only [Signature.fact?, Signature.understood, hashed_signature, facts]
  rcases issuerFacts_cases key with stated | stated
  · rw [stated]
    exact ⟨rfl, rfl, rfl⟩
  · rw [stated]
    exact ⟨rfl, rfl, rfl⟩

theorem created_signature (small : now < Nat.pow 2 32) :
    (signature key seed now body).created? = some now := by
  obtain ⟨created, _, _⟩ := facts_signature key seed now body
  rw [Signature.created?, created, Option.bind_some]
  exact Octets.exactly_bigEndian small

theorem acceptable_signature : (signature key seed now body).acceptable = true := by
  have known : (HashAlgorithm.ofCode? (signature key seed now body).hash).isSome = true := rfl
  obtain ⟨_, _, understood⟩ := facts_signature key seed now body
  rw [Signature.acceptable, known, understood]
  rfl

theorem aliveAt_signature (small : now < Nat.pow 2 32) (later : Nat) :
    (signature key seed now body).aliveAt later tolerance = true ↔ now ≤ later + tolerance := by
  obtain ⟨_, lifetime, _⟩ := facts_signature key seed now body
  have unlimited : (signature key seed now body).span? Subpacket.lifetimeKind = none := by
    rw [Signature.span?, lifetime]
    rfl
  simp [Signature.aliveAt, created_signature key seed now body small, unlimited]

theorem mayBeBy_signature : (signature key seed now body).mayBeBy key = true := by
  have stated : fingerprintFact key ∈ facts key now := by
    rw [facts]
    rcases issuerFacts_cases key with issuers | issuers
    · simp [issuers]
    · simp [issuers]
  have size : (fingerprintFact key).content.length = 21 ∨
      (fingerprintFact key).content.length = 33 := by
    rw [fingerprintFact, List.length_cons, PublicKey.length_fingerprint]
    cases key.version with
    | four => exact .inl rfl
    | six => exact .inr rfl
  have maker : key.fingerprint ∈ (signature key seed now body).issuers := by
    rw [Signature.issuers, List.mem_filterMap]
    refine ⟨fingerprintFact key, List.mem_append_left _ stated, ?_⟩
    have other : ¬ ((fingerprintFact key).kind = Subpacket.issuerKind ∧
        (fingerprintFact key).content.length = 8) := by
      rintro ⟨impossible, _⟩
      cases impossible
    rw [if_neg other, if_pos ⟨rfl, size⟩]
    rfl
  rw [Signature.mayBeBy, Bool.or_eq_true, List.any_eq_true]
  exact .inr ⟨key.fingerprint, maker, by simp⟩

theorem data_signature : data? (signature key seed now body).kind body = some body := rfl

variable {seed now body} {point : List UInt8}

theorem holds_signature (small : now < Nat.pow 2 32) (made : key.created ≤ now)
    (pointed : key.point? = some point) :
    (signature key seed now body).holds key body =
      Ed25519.verify point (HashAlgorithm.sha512.digest ((head key now).covered body))
        (Ed25519.sign seed (HashAlgorithm.sha512.digest ((head key now).covered body))) := by
  have later : (signature key seed now body).created?.any (key.created ≤ ·) = true := by
    rw [created_signature key seed now body small]
    exact decide_eq_true made
  have algorithm := PublicKey.algorithm_of_point pointed
  exact Signature.holds_signature rfl algorithm rfl (Ed25519.length_sign ..) pointed later

end

section

variable {certificate : Certificate} {time later : Nat} {body data : List UInt8}
  {signature : Signature}

theorem isGood_stripped : isGood certificate.stripped later body signature =
    isGood certificate later body signature := by
  simp only [isGood, Certificate.primaryBindingAt_stripped, Certificate.primaryAliveAt_stripped,
    Certificate.revokedAt_stripped, Certificate.keysAt_stripped, List.any_map]
  rfl

/-- A signature that is in order itself is good if one of the usable keys made it and the whole
certificate is not revoked, both at the time that the signature states. -/
theorem isGood_iff (created : signature.created? = some time)
    (stated : data? signature.kind body = some data) (acceptable : signature.acceptable = true) :
    isGood certificate later body signature = true ↔
      signature.aliveAt later tolerance = true ∧ certificate.isRevoked time = false ∧
        ∃ status ∈ certificate.keysAt time, status.usable = true ∧
          signature.mayBeBy status.key.publicPart = true ∧
          signature.holds status.key.publicPart data = true := by
  simp only [isGood, created, stated, acceptable, Bool.true_and, Bool.and_eq_true,
    List.any_eq_true, Option.any_eq_true, Bool.not_eq_true']
  constructor
  · intro given
    obtain ⟨⟨alive, binding, bound, _, kept⟩, status, member, ⟨usable, named⟩, holds⟩ := given
    have live : certificate.isRevoked time = false := by
      rw [Certificate.isRevoked, bound]
      exact kept
    exact ⟨alive, live, status, member, usable, named, holds⟩
  · intro given
    obtain ⟨alive, live, status, member, usable, named, holds⟩ := given
    obtain ⟨⟨binding, bound⟩, whole, _⟩ :=
      Certificate.alive_spec member (Certificate.KeyStatus.usable_iff.mp usable).alive
    rw [Certificate.isRevoked, bound] at live
    exact ⟨⟨alive, binding, bound, whole, live⟩, status, member, ⟨usable, named⟩, holds⟩

/-- A signature that is made with a key is good for a certificate that the key counts for, if no other
key of the certificate could have made it. -/
theorem isGood_signature {key : PublicKey} {seed : List UInt8} (small : time < Nat.pow 2 32)
    (holds : (Detached.signature key seed time body).holds key body = true)
    (exclusive : ∀ status ∈ certificate.keysAt time,
      (Detached.signature key seed time body).mayBeBy status.key.publicPart = true →
      (Detached.signature key seed time body).holds status.key.publicPart body = true →
      status.key.publicPart = key) :
    isGood certificate later body (Detached.signature key seed time body) = true ↔
      time ≤ later + tolerance ∧ certificate.trusts key time = true := by
  rw [isGood_iff (created_signature key seed time body small) (data_signature key seed time body)
    (acceptable_signature key seed time body), aliveAt_signature key seed time body small,
    Certificate.trusts_iff]
  constructor
  · intro given
    obtain ⟨early, live, status, member, usable, named, made⟩ := given
    exact ⟨early, live, status, member, usable, exclusive status member named made⟩
  · intro given
    obtain ⟨early, live, status, member, usable, rfl⟩ := given
    have named := mayBeBy_signature status.key.publicPart seed time body
    exact ⟨early, live, status, member, usable, named, holds⟩

end

end Detached

end Attestor.OpenPgp
