import Attestor.OpenPgp.Validity

namespace Attestor.OpenPgp

namespace Detached

def binaryKind : Nat := 0x00

def textKind : Nat := 0x01

def canonicalLines : List UInt8 → List UInt8
  | [] => []
  | 0x0d :: 0x0a :: rest => 0x0d :: 0x0a :: canonicalLines rest
  | byte :: rest =>
    if byte = 0x0d ∨ byte = 0x0a then 0x0d :: 0x0a :: canonicalLines rest
    else byte :: canonicalLines rest

def data? (kind : Nat) (body : List UInt8) : Option (List UInt8) :=
  if kind = binaryKind then some body
  else if kind = textKind then some (canonicalLines body)
  else none

def tolerance : Nat := 30 * 60

/-- Whether a key of the certificate made a signature over a body, with both in order at the time of
the signature, and the signature still in force now. -/
def isGood (certificate : Certificate) (now : Nat) (body : List UInt8) (signature : Signature) :
    Bool :=
  match signature.created?, data? signature.kind body with
  | some time, some data =>
    signature.acceptable && signature.aliveAt now tolerance &&
      ((certificate.primaryBindingAt? time).any fun binding =>
        certificate.primaryAliveAt time && !certificate.revokedAt binding time) &&
      (certificate.keysAt time).any fun status =>
        status.usable && signature.mayBeBy status.key.publicPart && signature.holds status.key.publicPart data
  | _, _ => false

/-- The signatures among packets. Signatures of other versions are left out, and packets of other
kinds are refused. -/
def signatures? (packets : List Packet) : Option (List Signature) :=
  if packets.all fun packet =>
      packet.tag = Packet.signatureTag ∨ packet.tag = Packet.markerTag then
    some ((packets.filter (·.tag = Packet.signatureTag)).filterMap (Signature.read? ·.body))
  else none

/-- Whether a detached signature over a body is good for a certificate: one good signature is
enough. -/
def verify (certificate : Certificate) (now : Nat) (body signature : List UInt8) : Bool :=
  match (Packet.ofBlock? signature).bind signatures? with
  | some signatures => signatures.any (isGood certificate now body)
  | none => false

def issuerFacts (key : PublicKey) : List Subpacket :=
  let fingerprint : Subpacket :=
    { critical := false
      kind := Subpacket.issuerFingerprintKind
      content := UInt8.ofNat key.version.number :: key.fingerprint }
  match key.version with
  | .four =>
    [{ critical := false, kind := Subpacket.issuerKind, content := key.keyId }, fingerprint]
  | .six => [fingerprint]

def facts (key : PublicKey) (now : Nat) : List Subpacket :=
  { critical := true, kind := Subpacket.createdKind, content := Hash.bigEndian 4 now } ::
    issuerFacts key

def salt : Version → List UInt8
  | .four => []
  | .six => List.replicate HashAlgorithm.sha512.saltSize 0

def head (key : PublicKey) (now : Nat) : SignatureHead :=
  { version := key.version
    kind := binaryKind
    algorithm := if isPlain key.algorithm then plainEdwardsAlgorithm else edwardsAlgorithm
    hash := HashAlgorithm.sha512.code
    hashedArea := (facts key now).flatMap Subpacket.write
    salt := salt key.version }

def sign (key : PublicKey) (seed : List UInt8) (now : Nat) (body : List UInt8) : String :=
  let packet : Packet :=
    { tag := Packet.signatureTag, body := (head key now).sign .sha512 seed body }
  Armor.write .signature packet.write

end Detached

end Attestor.OpenPgp
