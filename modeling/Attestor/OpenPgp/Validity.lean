import Attestor.OpenPgp.Certificate

namespace Attestor.OpenPgp

def newest? (signatures : List Signature) : Option Signature :=
  signatures.foldl
    (fun best signature =>
      match best with
      | none => some signature
      | some other => if other.created?.getD 0 < signature.created?.getD 0 then some signature else best)
    none

/-- A revocation that counts from the beginning of time: unless its reason says that the key was
replaced or retired, or that an identity is no longer used, it may have been compromised before. -/
def isHard (revocation : Signature) : Bool :=
  match revocation.fact? Subpacket.revocationReasonKind with
  | some (code :: _) => !(code == 1 || code == 3 || code == 32)
  | _ => true

namespace Bound

variable {α : Type}

def bindingAt? (bound : Bound α) (time : Nat) : Option Signature :=
  newest? (bound.bindings.filter fun signature => signature.aliveAt time 0 && signature.acceptable)

/-- Whether the subject is revoked at a time. A soft revocation is undone by a newer binding. -/
def revokedAt (bound : Bound α) (binding : Signature) (time : Nat) : Bool :=
  bound.revocations.any fun revocation =>
    revocation.acceptable &&
      (isHard revocation ||
        (binding.created?.getD 0 ≤ revocation.created?.getD 0 && revocation.aliveAt time 0))

end Bound

def PublicKey.aliveAt (key : PublicKey) (lifetime : Option Nat) (time : Nat) : Bool :=
  key.created ≤ time && lifetime.all fun span => time < key.created + span

namespace Certificate

/-- Whether the second identity goes before the first: one that is not revoked before one that is,
then one marked as primary, then the one with the newer binding. -/
def outranks (time : Nat) (first second : Bound (List UInt8) × Signature) : Bool :=
  let rank (entry : Bound (List UInt8) × Signature) : Nat × Nat × Nat :=
    let live := if entry.1.revokedAt entry.2 time then 0 else 1
    let marked := match entry.2.fact? Subpacket.primaryIdentityKind with
      | some (flag :: _) => if flag = 0 then 0 else 1
      | _ => 0
    (live, marked, entry.2.created?.getD 0)
  let (live, marked, created) := rank first
  let (otherLive, otherMarked, otherCreated) := rank second
  live < otherLive || (live == otherLive &&
    (marked < otherMarked || (marked == otherMarked && created < otherCreated)))

def identityBindingAt? (certificate : Certificate) (time : Nat) : Option Signature :=
  let bound := certificate.identities.filterMap fun identity =>
    (identity.bindingAt? time).map (identity, ·)
  (bound.foldl
    (fun best entry =>
      match best with
      | none => some entry
      | some other => if outranks time other entry then some entry else best)
    none).map (·.2)

/-- The signature that speaks for the primary key at a time: the binding of the primary identity, or
one about the key itself if there is none. -/
def primaryBindingAt? (certificate : Certificate) (time : Nat) : Option Signature :=
  certificate.identityBindingAt? time <|> certificate.primary.bindingAt? time

/-- What is said about the primary key at a time. The signature about the key itself fills in what
the binding of the identity leaves open. -/
def primaryFact {α : Type} (certificate : Certificate) (time : Nat)
    (fact? : Signature → Option α) : Option α :=
  (certificate.primaryBindingAt? time).bind fact? <|>
    (certificate.primary.bindingAt? time).bind fact?

def primaryAliveAt (certificate : Certificate) (time : Nat) : Bool :=
  certificate.primary.subject.publicPart.aliveAt
    (certificate.primaryFact time (·.span? Subpacket.keyLifetimeKind)) time

def revokedAt (certificate : Certificate) (binding : Signature) (time : Nat) : Bool :=
  certificate.primary.revokedAt binding time

structure KeyStatus where
  key : Key
  forSigning : Bool
  alive : Bool
  revoked : Bool
deriving DecidableEq, Repr

def primaryStatus (certificate : Certificate) (binding : Signature) (time : Nat) : KeyStatus :=
  { key := certificate.primary.subject
    forSigning := (certificate.primaryFact time (·.hasFlag? 2)).getD false
    alive := certificate.primaryAliveAt time
    revoked := certificate.revokedAt binding time }

def subkeyStatus? (certificate : Certificate) (time : Nat) (subkey : Bound Key) :
    Option KeyStatus :=
  (subkey.bindingAt? time).map fun binding =>
    { key := subkey.subject
      forSigning := (binding.hasFlag? 2).getD false
      alive := certificate.primaryAliveAt time &&
        subkey.subject.publicPart.aliveAt (binding.span? Subpacket.keyLifetimeKind) time
      revoked := subkey.revokedAt binding time }

/-- The bound keys at a time, the primary key first. Without a signature that speaks for the primary
key there are none. -/
def keysAt (certificate : Certificate) (time : Nat) : List KeyStatus :=
  match certificate.primaryBindingAt? time with
  | none => []
  | some binding =>
    certificate.primaryStatus binding time ::
      certificate.subkeys.filterMap (certificate.subkeyStatus? time)

def KeyStatus.usable (status : KeyStatus) : Bool :=
  status.forSigning && status.alive && !status.revoked && status.key.publicPart.point?.isSome

def signingKeyAt? (certificate : Certificate) (time : Nat) : Option Key :=
  ((certificate.keysAt time).find? fun status =>
    status.usable && status.key.secret != .absent).map (·.key)

end Certificate

end Attestor.OpenPgp
