import Attestor.Proofs.KeyRing
import Attestor.Proofs.OpenPgp.Detached
import Attestor.Proofs.OpenPgp.Validity

namespace Attestor.Signer

open OpenPgp

def isGenuine (signer : Signer) (now : Nat) (body : List UInt8) : Bool :=
  (seedAt? signer.certificate now).all fun (key, seed) => key.point?.all fun point =>
    let digest := HashAlgorithm.sha512.digest ((Detached.head key now).covered body)
    Ed25519.verify point digest (Ed25519.sign seed digest)

theorem sign_ok_iff {signer : Signer} {now : Nat} {body : List UInt8} {text : String} :
    signer.sign now body = .ok text ↔
      ∃ key seed, seedAt? signer.certificate now = some (key, seed) ∧ now < Nat.pow 2 32 ∧
        Detached.sign key seed now body = text := by
  rw [sign]
  constructor
  · intro signed
    split at signed
    · rename_i key seed found
      split at signed
      · rename_i small
        exact ⟨key, seed, found, small, Except.ok.inj signed⟩
      · cases signed
    · cases signed
  · rintro ⟨key, seed, found, small, rfl⟩
    rw [found]
    exact if_pos small

theorem seedAt_spec {certificate : Certificate} {now : Nat} {key : PublicKey} {seed : List UInt8}
    (found : seedAt? certificate now = some (key, seed)) :
    ∃ status ∈ certificate.keysAt now, status.usable = true ∧ status.key.publicPart = key := by
  obtain ⟨whole, chosen, later⟩ := Option.bind_eq_some_iff.mp found
  obtain ⟨_, _, same⟩ := Option.bind_eq_some_iff.mp later
  cases same
  obtain ⟨status, member, usable, rfl⟩ := Certificate.signingKeyAt_spec chosen
  exact ⟨status, member, usable, rfl⟩

theorem holds_of_genuine {signer : Signer} {now : Nat} {body : List UInt8} {key : PublicKey}
    {seed : List UInt8} (found : seedAt? signer.certificate now = some (key, seed))
    (small : now < Nat.pow 2 32) (genuine : signer.isGenuine now body = true) :
    (Detached.signature key seed now body).holds key body = true := by
  obtain ⟨status, member, usable, rfl⟩ := seedAt_spec found
  have maySign := Certificate.KeyStatus.usable_iff.mp usable
  obtain ⟨point, pointed⟩ := maySign.supported
  obtain ⟨_, _, made⟩ := Certificate.alive_spec member maySign.alive
  simp only [isGenuine, found, pointed, Option.all_some] at genuine
  exact (Detached.holds_signature status.key.publicPart small made pointed).trans genuine

/-- The key that signs is itself in order. So a signature is refused only for a certificate that is
revoked as a whole, which the choice of the key does not look at. -/
theorem verify_sign_seedAt {signer : Signer} {now : Nat} {body : List UInt8} {key : PublicKey}
    {seed : List UInt8} (found : seedAt? signer.certificate now = some (key, seed))
    (small : now < Nat.pow 2 32) (genuine : signer.isGenuine now body = true) :
    Detached.verify signer.publicCertificate now body
        (Text.encode (Detached.sign key seed now body)) = !signer.certificate.isRevoked now := by
  have holds := holds_of_genuine found small genuine
  obtain ⟨status, member, usable, rfl⟩ := seedAt_spec found
  rw [Detached.verify_sign, publicCertificate, Detached.isGood_stripped, Bool.eq_iff_iff,
    Detached.isGood_iff (Detached.created_signature _ _ _ _ small) (Detached.data_signature ..)
      (Detached.acceptable_signature ..), Bool.not_eq_true']
  constructor
  · intro given
    exact given.2.1
  · intro live
    have alive := (Detached.aliveAt_signature status.key.publicPart seed now body small now).mpr
      (Nat.le_add_right ..)
    exact ⟨alive, live, status, member, usable, Detached.mayBeBy_signature .., holds⟩

/-- What a signer signs is verified by its public certificate at the time of signing, whichever of
its keys signs, if and only if the certificate is not revoked. -/
theorem verify_signed {signer : Signer} {now : Nat} {body : List UInt8} {text : String}
    (signed : signer.sign now body = .ok text) (genuine : signer.isGenuine now body = true) :
    Detached.verify signer.publicCertificate now body (Text.encode text) =
      !signer.certificate.isRevoked now := by
  obtain ⟨key, seed, found, small, rfl⟩ := sign_ok_iff.mp signed
  exact verify_sign_seedAt found small genuine

def keyOfSeed (seed : List UInt8) : PublicKey :=
  { created := 0
    algorithm := edwardsAlgorithm
    material := 9 :: edwardsCurve ++ Integer.write (0x40 :: Ed25519.publicKey seed) }

def statement (kind : Nat) (facts : List Subpacket) (seed data : List UInt8) : List UInt8 :=
  let created : Subpacket :=
    { critical := true, kind := Subpacket.createdKind, content := Hash.bigEndian 4 0 }
  let head : SignatureHead :=
    { kind
      algorithm := edwardsAlgorithm
      hash := HashAlgorithm.sha512.code
      hashedArea := (created :: facts).flatMap Subpacket.write }
  head.sign .sha512 seed data

def retired : Signer :=
  let seed : List UInt8 := List.replicate 32 7
  let subseed : List UInt8 := List.replicate 32 8
  let primary := keyOfSeed seed
  let subkey := keyOfSeed subseed
  let both := primary.hashed ++ subkey.hashed
  let consent : Subpacket :=
    { critical := false
      kind := Subpacket.embeddedKind
      content := statement Certificate.backKind [] subseed both }
  let forSigning : Subpacket := { critical := true, kind := Subpacket.flagsKind, content := [2] }
  { certificate := Certificate.ofParts { publicPart := primary, secret := .plain seed }
      { subkeys := [{ publicPart := subkey, secret := .plain subseed }]
        signatures :=
          [statement Certificate.directKind [] seed primary.hashed,
            statement Certificate.keyRevocationKind [] seed primary.hashed,
            statement Certificate.subkeyKind [forSigning, consent] seed both] } }

/-- The revoked certificate still signs, and what it signs is refused. -/
theorem verify_signed_retired : ∃ text, retired.sign 5 (Text.encode "body") = .ok text ∧
    Detached.verify retired.publicCertificate 5 (Text.encode "body") (Text.encode text) = false := by
  have state : (seedAt? retired.certificate 5).isSome = true ∧
      retired.isGenuine 5 (Text.encode "body") = true ∧
      retired.certificate.isRevoked 5 = true := by
    decide +kernel
  obtain ⟨some, genuine, revoked⟩ := state
  obtain ⟨⟨key, seed⟩, found⟩ := Option.isSome_iff_exists.mp some
  have signed : retired.sign 5 (Text.encode "body") =
      .ok (Detached.sign key seed 5 (Text.encode "body")) :=
    sign_ok_iff.mpr ⟨key, seed, found, by decide, rfl⟩
  refine ⟨_, signed, ?_⟩
  rw [verify_signed signed genuine, revoked]
  rfl

end Attestor.Signer
