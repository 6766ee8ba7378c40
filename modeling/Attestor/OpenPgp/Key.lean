import Attestor.Ed25519
import Attestor.Hash.Sha1
import Attestor.Hash.Sha256
import Attestor.OpenPgp.Integer
import Attestor.OpenPgp.Packet
import Attestor.Text.Hex

namespace Attestor.OpenPgp

inductive Version where
  | four
  | six
deriving DecidableEq, Repr

namespace Version

def number : Version → Nat
  | four => 4
  | six => 6

def ofNumber? : Nat → Option Version
  | 4 => some four
  | 6 => some six
  | _ => none

end Version

def edwardsAlgorithm : Nat := 22

def agreementAlgorithm : Nat := 18

def plainEdwardsAlgorithm : Nat := 27

def plainAgreementAlgorithm : Nat := 25

def isPlain (algorithm : Nat) : Bool :=
  algorithm == plainEdwardsAlgorithm || algorithm == plainAgreementAlgorithm

def edwardsCurve : List UInt8 :=
  [0x2b, 0x06, 0x01, 0x04, 0x01, 0xda, 0x47, 0x0f, 0x01]

structure PublicKey where
  version : Version := .four
  created : Nat
  algorithm : Nat
  /-- What follows the algorithm, and the length in a key of version 6. -/
  material : List UInt8
deriving DecidableEq, Repr

inductive Secret where
  | absent
  | plain (number : List UInt8)
  /-- The secret is there but cannot be used. -/
  | locked
deriving DecidableEq, Repr

structure Key where
  publicPart : PublicKey
  secret : Secret
deriving DecidableEq, Repr

namespace PublicKey

def body (key : PublicKey) : List UInt8 :=
  let sized := match key.version with
    | .four => key.material
    | .six => Hash.bigEndian 4 key.material.length ++ key.material
  UInt8.ofNat key.version.number ::
    (Hash.bigEndian 4 key.created ++ UInt8.ofNat key.algorithm :: sized)

def hashed (key : PublicKey) : List UInt8 :=
  match key.version with
  | .four => 0x99 :: Hash.bigEndian 2 key.body.length ++ key.body
  | .six => 0x9b :: Hash.bigEndian 4 key.body.length ++ key.body

def fingerprint (key : PublicKey) : List UInt8 :=
  match key.version with
  | .four => Hash.Sha1.digest key.hashed
  | .six => Hash.Sha256.digest256 key.hashed

/-- The end of a fingerprint of version 4, and the beginning of one of version 6. -/
def keyId (key : PublicKey) : List UInt8 :=
  match key.version with
  | .four => key.fingerprint.drop 12
  | .six => key.fingerprint.take 8

def afterSized? (bytes : List UInt8) : Option (List UInt8 × List UInt8) := do
  let (size, rest) ← Octets.number? 1 bytes
  Octets.split? size rest

def materialLength? (version : Version) (algorithm : Nat) (bytes : List UInt8) : Option Nat := do
  if isPlain algorithm then return 32
  if version = .six then none
  let (_, rest) ← afterSized? bytes
  let (_, rest) ← Integer.read? rest
  if algorithm = edwardsAlgorithm then return bytes.length - rest.length
  else if algorithm = agreementAlgorithm then
    let (_, rest) ← afterSized? rest
    return bytes.length - rest.length
  else none

/-- The length that a key of version 6 states has to be the one that its algorithm asks for. -/
def material? (version : Version) (algorithm : Nat) (bytes : List UInt8) :
    Option (List UInt8 × List UInt8) := do
  match version with
  | .four => Octets.split? (← materialLength? version algorithm bytes) bytes
  | .six =>
    let (size, rest) ← Octets.number? 4 bytes
    if (← materialLength? version algorithm rest) = size then Octets.split? size rest else none

def read? (bytes : List UInt8) : Option (PublicKey × List UInt8) := do
  let (number, rest) ← Octets.number? 1 bytes
  let version ← Version.ofNumber? number
  let (created, rest) ← Octets.number? 4 rest
  let (algorithm, rest) ← Octets.number? 1 rest
  let (material, rest) ← material? version algorithm rest
  return ({ version, created, algorithm, material }, rest)

def point? (key : PublicKey) : Option (List UInt8) :=
  if key.algorithm = plainEdwardsAlgorithm then
    if key.material.length = 32 then some key.material else none
  else do
    let (curve, rest) ← afterSized? key.material
    let (number, _) ← Integer.read? rest
    match number with
    | 0x40 :: point =>
      if key.algorithm = edwardsAlgorithm ∧ curve = edwardsCurve ∧ point.length = 32 then
        return point
      else none
    | _ => none

end PublicKey

namespace Secret

def checksum (bytes : List UInt8) : Nat :=
  bytes.foldl (fun sum byte => sum + byte.toNat) 0 % 65536

def read? (key : PublicKey) (bytes : List UInt8) : Option Secret := do
  let (usage, rest) ← Octets.number? 1 bytes
  if usage = 0 then
    let (number, after) ← if isPlain key.algorithm then Octets.split? 32 rest else Integer.read? rest
    match key.version with
    | .six => return .plain number
    | .four =>
      let (sum, _) ← Octets.number? 2 after
      if checksum (rest.take (rest.length - after.length)) = sum then return .plain number else none
  else return .locked

end Secret

namespace Key

def read? (withSecret : Bool) (body : List UInt8) : Option Key := do
  let (publicPart, rest) ← PublicKey.read? body
  let secret ← if withSecret then Secret.read? publicPart rest else some .absent
  return { publicPart, secret }

def stripped (key : Key) : Key :=
  { key with secret := .absent }

def seed? (key : Key) : Option (List UInt8) :=
  match key.secret with
  | .plain number => some (Integer.fixed 32 number)
  | _ => none

end Key

end Attestor.OpenPgp
