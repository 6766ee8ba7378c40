import Attestor.Hash.Sha256
import Attestor.OpenPgp.Key

namespace Attestor.OpenPgp

structure Subpacket where
  critical : Bool
  kind : Nat
  content : List UInt8
deriving DecidableEq, Repr

namespace Subpacket

def createdKind : Nat := 2

def lifetimeKind : Nat := 3

def keyLifetimeKind : Nat := 9

def issuerKind : Nat := 16

def notationKind : Nat := 20

def primaryIdentityKind : Nat := 25

def flagsKind : Nat := 27

def revocationReasonKind : Nat := 29

def embeddedKind : Nat := 32

def issuerFingerprintKind : Nat := 33

def known : List Nat :=
  [2, 3, 4, 5, 6, 7, 9, 11, 12, 16, 20, 21, 22, 23, 24, 25, 26, 27, 28, 29, 30, 31, 32, 33, 34, 35,
    37, 39]

def length? : List UInt8 → Option (Nat × List UInt8)
  | [] => none
  | first :: rest =>
    let n := first.toNat
    if n < 192 then some (n, rest)
    else if n < 255 then
      match rest with
      | [] => none
      | second :: rest => some ((n - 192) * 256 + second.toNat + 192, rest)
    else Octets.number? 4 rest

def readAllWithin : (steps : Nat) → List UInt8 → Option (List Subpacket)
  | _, [] => some []
  | 0, _ :: _ => none
  | steps + 1, bytes => do
    let (length, rest) ← length? bytes
    let (content, rest) ← Octets.split? length rest
    match content with
    | [] => none
    | kind :: content =>
      let others ← readAllWithin steps rest
      return { critical := kind.toNat ≥ 128, kind := kind.toNat % 128, content } :: others

def readAll? (bytes : List UInt8) : Option (List Subpacket) :=
  readAllWithin bytes.length bytes

def write (subpacket : Subpacket) : List UInt8 :=
  UInt8.ofNat (subpacket.content.length + 1) ::
    UInt8.ofNat (subpacket.kind + if subpacket.critical then 128 else 0) :: subpacket.content

end Subpacket

inductive HashAlgorithm where
  | sha224
  | sha256
  | sha384
  | sha512
deriving DecidableEq, Repr

namespace HashAlgorithm

def ofCode? : Nat → Option HashAlgorithm
  | 8 => some sha256
  | 9 => some sha384
  | 10 => some sha512
  | 11 => some sha224
  | _ => none

def code : HashAlgorithm → Nat
  | sha256 => 8
  | sha384 => 9
  | sha512 => 10
  | sha224 => 11

def saltSize : HashAlgorithm → Nat
  | sha224 => 16
  | sha256 => 16
  | sha384 => 24
  | sha512 => 32

def digest : HashAlgorithm → List UInt8 → List UInt8
  | sha224 => Hash.Sha256.digest224
  | sha256 => Hash.Sha256.digest256
  | sha384 => Hash.Sha512.digest384
  | sha512 => Hash.Sha512.digest512

end HashAlgorithm

structure SignatureHead where
  version : Version := .four
  kind : Nat
  algorithm : Nat
  hash : Nat
  hashedArea : List UInt8
  /-- Bytes that are hashed before the data, in a signature of version 6. -/
  salt : List UInt8 := []
deriving DecidableEq, Repr

structure Signature extends SignatureHead where
  hashed : List Subpacket
  unhashed : List Subpacket
  r : List UInt8
  s : List UInt8
deriving DecidableEq, Repr

namespace Version

def areaSize : Version → Nat
  | four => 2
  | six => 4

end Version

namespace SignatureHead

def bytes (head : SignatureHead) : List UInt8 :=
  [UInt8.ofNat head.version.number, UInt8.ofNat head.kind, UInt8.ofNat head.algorithm,
      UInt8.ofNat head.hash] ++
    Hash.bigEndian head.version.areaSize head.hashedArea.length ++ head.hashedArea

def trailer (head : SignatureHead) : List UInt8 :=
  head.bytes ++ [UInt8.ofNat head.version.number, 0xff] ++ Hash.bigEndian 4 head.bytes.length

def covered (head : SignatureHead) (data : List UInt8) : List UInt8 :=
  head.salt ++ data ++ head.trailer

def digest? (head : SignatureHead) (data : List UInt8) : Option (List UInt8) :=
  (HashAlgorithm.ofCode? head.hash).map (·.digest (head.covered data))

end SignatureHead

namespace Signature

def area? (version : Version) (bytes : List UInt8) : Option (List UInt8 × List UInt8) := do
  let (size, rest) ← Octets.number? version.areaSize bytes
  Octets.split? size rest

def salt? (version : Version) (hash : Nat) (bytes : List UInt8) :
    Option (List UInt8 × List UInt8) := do
  match version with
  | .four => return ([], bytes)
  | .six =>
    let algorithm ← HashAlgorithm.ofCode? hash
    let (size, rest) ← Octets.number? 1 bytes
    if size = algorithm.saltSize then Octets.split? size rest else none

def numbers? (algorithm : Nat) (bytes : List UInt8) : Option (List UInt8 × List UInt8) := do
  if algorithm = edwardsAlgorithm then
    let (r, rest) ← Integer.read? bytes
    let (s, _) ← Integer.read? rest
    return (r, s)
  else if algorithm = plainEdwardsAlgorithm then
    let (r, rest) ← Octets.split? 32 bytes
    let (s, _) ← Octets.split? 32 rest
    return (r, s)
  else none

def read? (body : List UInt8) : Option Signature := do
  let (number, rest) ← Octets.number? 1 body
  let version ← Version.ofNumber? number
  let (kind, rest) ← Octets.number? 1 rest
  let (algorithm, rest) ← Octets.number? 1 rest
  let (hash, rest) ← Octets.number? 1 rest
  let (hashedArea, rest) ← area? version rest
  let hashed ← Subpacket.readAll? hashedArea
  let (unhashedArea, rest) ← area? version rest
  let unhashed ← Subpacket.readAll? unhashedArea
  let (_, rest) ← Octets.split? 2 rest
  let (salt, rest) ← salt? version hash rest
  let (r, s) ← numbers? algorithm rest
  return { version, kind, algorithm, hash, hashedArea, salt, hashed, unhashed, r, s }

def fact? (signature : Signature) (kind : Nat) : Option (List UInt8) :=
  (signature.hashed.reverse.find? (·.kind == kind)).map (·.content)

def created? (signature : Signature) : Option Nat :=
  (signature.fact? Subpacket.createdKind).bind (Octets.exactly? 4)

def span? (signature : Signature) (kind : Nat) : Option Nat :=
  ((signature.fact? kind).bind (Octets.exactly? 4)).filter (· ≠ 0)

def aliveAt (signature : Signature) (time tolerance : Nat) : Bool :=
  match signature.created? with
  | none => false
  | some created =>
    created ≤ time + tolerance &&
      (signature.span? Subpacket.lifetimeKind).all fun span => time < created + span

def issuers (signature : Signature) : List (List UInt8) :=
  (signature.hashed ++ signature.unhashed).filterMap fun subpacket =>
    if subpacket.kind = Subpacket.issuerKind ∧ subpacket.content.length = 8 then
      some subpacket.content
    else if subpacket.kind = Subpacket.issuerFingerprintKind ∧
        (subpacket.content.length = 21 ∨ subpacket.content.length = 33) then
      some subpacket.content.tail
    else none

def mayBeBy (signature : Signature) (key : PublicKey) : Bool :=
  signature.issuers.isEmpty ||
    signature.issuers.any fun issuer => issuer == key.fingerprint || issuer == key.keyId

def hasFlag? (signature : Signature) (flag : Nat) : Option Bool :=
  (signature.fact? Subpacket.flagsKind).map fun content =>
    match content with
    | first :: _ => first.toNat / flag % 2 == 1
    | [] => false

/-- Whether all facts that have to be understood are, and no notation has to be. -/
def understood (signature : Signature) : Bool :=
  signature.hashed.all fun subpacket =>
    !subpacket.critical ||
      (Subpacket.known.contains subpacket.kind && subpacket.kind != Subpacket.notationKind)

def acceptable (signature : Signature) : Bool :=
  (HashAlgorithm.ofCode? signature.hash).isSome && signature.understood

/-- Whether a key made the signature over some data. A signature is of the version and the algorithm of
its key, and not older than it. -/
def holds (signature : Signature) (key : PublicKey) (data : List UInt8) : Bool :=
  signature.version == key.version && signature.algorithm == key.algorithm &&
    (signature.created?.any (key.created ≤ ·)) &&
    match key.point?, signature.toSignatureHead.digest? data, Integer.padded? 32 signature.r,
        Integer.padded? 32 signature.s with
    | some point, some digest, some r, some s => Ed25519.verify point digest (r ++ s)
    | _, _, _, _ => false

end Signature

namespace SignatureHead

def saltBytes (head : SignatureHead) : List UInt8 :=
  match head.version with
  | .four => []
  | .six => UInt8.ofNat head.salt.length :: head.salt

def numberBytes (head : SignatureHead) (numbers : List UInt8) : List UInt8 :=
  if head.algorithm = edwardsAlgorithm then
    Integer.write (numbers.take 32) ++ Integer.write (numbers.drop 32)
  else numbers

def sign (head : SignatureHead) (hash : HashAlgorithm) (seed data : List UInt8) : List UInt8 :=
  let digest := hash.digest (head.covered data)
  head.bytes ++ Hash.bigEndian head.version.areaSize 0 ++ digest.take 2 ++ head.saltBytes ++
    head.numberBytes (Ed25519.sign seed digest)

end SignatureHead

end Attestor.OpenPgp
