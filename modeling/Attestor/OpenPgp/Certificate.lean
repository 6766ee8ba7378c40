import Attestor.OpenPgp.Armor
import Attestor.OpenPgp.Signature

namespace Attestor.OpenPgp

structure Bound (α : Type) where
  subject : α
  bindings : List Signature
  revocations : List Signature
deriving DecidableEq, Repr

structure Certificate where
  primary : Bound Key
  identities : List (Bound (List UInt8))
  subkeys : List (Bound Key)
  signatures : List (List UInt8)
deriving DecidableEq, Repr

namespace Certificate

def directKind : Nat := 0x1f

def keyRevocationKind : Nat := 0x20

def identityRevocationKind : Nat := 0x30

def subkeyKind : Nat := 0x18

def backKind : Nat := 0x19

def subkeyRevocationKind : Nat := 0x28

def isCertification (kind : Nat) : Bool :=
  0x10 ≤ kind && kind ≤ 0x13

def identityHashed (identity : List UInt8) : List UInt8 :=
  0xb4 :: Hash.bigEndian 4 identity.length ++ identity

def byPrimary (primary : PublicKey) (data : List UInt8) (signature : Signature) : Bool :=
  signature.mayBeBy primary && signature.holds primary data

/-- Whether a signature that binds a key for signing carries the consent of that key. -/
def consented (subkey : PublicKey) (data : List UInt8) (signature : Signature) : Bool :=
  signature.hasFlag? 2 != some true ||
    (signature.hashed ++ signature.unhashed).any fun subpacket =>
      subpacket.kind == Subpacket.embeddedKind &&
        ((Signature.read? subpacket.content).any fun back =>
          back.kind == backKind && back.acceptable && back.holds subkey data)

def bindPrimary (signatures : List Signature) (key : Key) : Bound Key :=
  let own (kind : Nat) :=
    signatures.filter fun signature =>
      signature.kind == kind && byPrimary key.publicPart key.publicPart.hashed signature
  { subject := key, bindings := own directKind, revocations := own keyRevocationKind }

def bindIdentity (signatures : List Signature) (primary : PublicKey) (identity : List UInt8) :
    Bound (List UInt8) :=
  let data := primary.hashed ++ identityHashed identity
  let own (test : Nat → Bool) :=
    signatures.filter fun signature => test signature.kind && byPrimary primary data signature
  { subject := identity
    bindings := own isCertification
    revocations := own (· == identityRevocationKind) }

def bindSubkey (signatures : List Signature) (primary : PublicKey) (key : Key) : Bound Key :=
  let data := primary.hashed ++ key.publicPart.hashed
  let own (kind : Nat) :=
    signatures.filter fun signature => signature.kind == kind && byPrimary primary data signature
  { subject := key
    bindings := (own subkeyKind).filter (consented key.publicPart data)
    revocations := own subkeyRevocationKind }

structure Parts where
  identities : List (List UInt8) := []
  subkeys : List Key := []
  signatures : List (List UInt8) := []

/-- Takes a packet that follows the primary key. What cannot be read is left out, but a second
primary key and packets of other kinds are refused. -/
def Parts.add? (parts : Parts) (packet : Packet) : Option Parts :=
  if packet.tag = Packet.signatureTag then
    some { parts with signatures := parts.signatures ++ [packet.body] }
  else if packet.tag = Packet.userIdTag then
    some { parts with identities := parts.identities ++ [packet.body] }
  else if packet.tag = Packet.secretSubkeyTag ∨ packet.tag = Packet.publicSubkeyTag then
    some { parts with
      subkeys := parts.subkeys ++
        (Key.read? (packet.tag = Packet.secretSubkeyTag) packet.body).toList }
  else if packet.tag = Packet.userAttributeTag ∨ packet.tag = Packet.trustTag ∨
      packet.tag = Packet.markerTag ∨ packet.tag = Packet.paddingTag ∨ packet.tag ≥ 40 then
    some parts
  else none

def ofParts (key : Key) (parts : Parts) : Certificate :=
  let signatures := parts.signatures.filterMap Signature.read?
  { primary := bindPrimary signatures key
    identities := parts.identities.map (bindIdentity signatures key.publicPart)
    subkeys := parts.subkeys.map (bindSubkey signatures key.publicPart)
    signatures := parts.signatures }

def ofPackets? : List Packet → Option Certificate
  | [] => none
  | first :: rest => do
    if first.tag ≠ Packet.secretKeyTag ∧ first.tag ≠ Packet.publicKeyTag then none
    let key ← Key.read? (first.tag = Packet.secretKeyTag) first.body
    let parts ← rest.foldlM Parts.add? {}
    return ofParts key parts

def ofBytes? (bytes : List UInt8) : Option Certificate :=
  (Packet.ofBlocks? bytes).bind ofPackets?

def stripped (certificate : Certificate) : Certificate :=
  { certificate with
    primary := { certificate.primary with subject := certificate.primary.subject.stripped }
    subkeys := certificate.subkeys.map fun subkey =>
      { subkey with subject := subkey.subject.stripped } }

def publicPackets (certificate : Certificate) : List Packet :=
  { tag := Packet.publicKeyTag, body := certificate.primary.subject.publicPart.body } ::
    (certificate.identities.map fun identity =>
      { tag := Packet.userIdTag, body := identity.subject }) ++
    (certificate.subkeys.map fun subkey =>
      { tag := Packet.publicSubkeyTag, body := subkey.subject.publicPart.body }) ++
    certificate.signatures.map fun body => { tag := Packet.signatureTag, body }

def publicArmor (certificate : Certificate) : String :=
  Armor.write .publicKey (certificate.publicPackets.flatMap Packet.write)

def fingerprint (certificate : Certificate) : List UInt8 :=
  certificate.primary.subject.publicPart.fingerprint

def keyId (certificate : Certificate) : List UInt8 :=
  certificate.primary.subject.publicPart.keyId

end Certificate

end Attestor.OpenPgp
