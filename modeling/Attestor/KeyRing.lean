import Attestor.Attestation
import Attestor.Image
import Attestor.KeyRing.Error
import Attestor.OpenPgp.Detached
import Attestor.Text.Quoted

namespace Attestor

open OpenPgp

structure Secrets where
  keys : List (String × String) := []
deriving DecidableEq, Repr

namespace Secrets

def ofJson? (json : Json) : Option Secrets := do
  let fields ← json.fields? ["openpgpkeys"]
  let keys ← fields.withDefault "openpgpkeys" (Json.dictionary? Json.text?) []
  return { keys }

def diagnostic (secrets : Secrets) : String :=
  "Secrets \x7b openpgpkeys: " ++ Text.quotedList (secrets.keys.map (·.1)) ++ " \x7d"

end Secrets

structure Signer where
  certificate : Certificate
deriving DecidableEq, Repr

namespace Signer

def keyIdText (certificate : Certificate) : String :=
  "0x" ++ String.ofList (Hex.ofNat (Hash.ofBigEndian certificate.keyId))

def keyId (signer : Signer) : String :=
  keyIdText signer.certificate

def fingerprint (signer : Signer) : String :=
  String.ofList (Hex.upper signer.certificate.fingerprint)

def seedAt? (certificate : Certificate) (now : Nat) : Option (PublicKey × List UInt8) := do
  let key ← certificate.signingKeyAt? now
  let seed ← key.seed?
  return (key.publicPart, seed)

def ofCertificate (certificate : Certificate) (now : Nat) : Except KeyRingError Signer :=
  if (seedAt? certificate now).isSome then .ok { certificate }
  else .error (.noSigningKey (keyIdText certificate))

def ofArmored (name : String) (armored : List UInt8) (now : Nat) : Except KeyRingError Signer :=
  match Certificate.ofBytes? armored with
  | none => .error (.parseKey name)
  | some certificate => ofCertificate certificate now

def publicCertificate (signer : Signer) : Certificate :=
  signer.certificate.stripped

/-- Signs a body. A signature states its time in 32 bits, and beyond that nothing can be signed. -/
def sign (signer : Signer) (now : Nat) (body : List UInt8) : Except KeyRingError String :=
  match seedAt? signer.certificate now with
  | some (key, seed) =>
    if now < Nat.pow 2 32 then .ok (Detached.sign key seed now body)
    else .error (.sign signer.keyId)
  | none => .error (.noSigningKey signer.keyId)

def diagnostic (signer : Signer) : String :=
  "Signer \x7b key_id: " ++ Text.quoted signer.keyId ++ ", fingerprint: " ++
    Text.quoted signer.fingerprint ++ " \x7d"

end Signer

structure KeyRing where
  signers : List (String × Signer) := []
deriving DecidableEq, Repr

namespace KeyRing

def put (name : String) (signer : Signer) : List (String × Signer) → List (String × Signer)
  | [] => [(name, signer)]
  | (other, old) :: rest =>
    if other = name then (name, signer) :: rest else (other, old) :: put name signer rest

def add (ring : KeyRing) (name : String) (signer : Signer) : KeyRing :=
  { signers := put name signer ring.signers }

/-- Reads every key of a document; one key that cannot sign spoils the ring. -/
def ofSecrets (secrets : Secrets) (now : Nat) : Except KeyRingError KeyRing :=
  secrets.keys.foldlM (fun ring (name, armored) => do
    let signer ← Signer.ofArmored name (Text.encode armored) now
    return ring.add name signer) {}

def ofFile (content : Option (List UInt8)) (now : Nat) : Except KeyRingError KeyRing :=
  match content with
  | none => .error .readSecrets
  | some bytes =>
    match (Json.ofBytes? bytes).bind Secrets.ofJson? with
    | none => .error .malformedSecrets
    | some secrets => ofSecrets secrets now

def signer (ring : KeyRing) (name : String) : Except KeyRingError Signer :=
  match ring.signers.lookup name with
  | some signer => .ok signer
  | none => .error (.noSigner name)

def names (ring : KeyRing) : List String :=
  ring.signers.map (·.1)

def sign (ring : KeyRing) (now : Nat) (name body : String) : Except KeyRingError (String × String) := do
  let signer ← ring.signer name
  let signature ← signer.sign now (Text.encode body)
  return (signature, signer.keyId)

def attest (ring : KeyRing) (now : Nat) (name body : String) (image : ImageReference) :
    Except KeyRingError SignedAttestation := do
  let (signature, keyId) ← ring.sign now name body
  return { checkName := name, image := image.canonical, body, signature, keyId }

def diagnostic (ring : KeyRing) : String :=
  let entries := ring.signers.map fun (name, signer) =>
    Text.quoted name ++ ": " ++ Text.quoted signer.keyId
  "\x7b" ++ ", ".intercalate entries ++ "\x7d"

end KeyRing

end Attestor
