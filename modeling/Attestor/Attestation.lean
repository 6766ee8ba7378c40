import Attestor.Json.Number
import Attestor.Json.Record

namespace Attestor

structure Attestation where
  checkName : String
  image : String
deriving DecidableEq, Repr

namespace Attestation

def ofJson? (json : Json) : Option Attestation := do
  let fields ← json.fields? ["check_name", "image"]
  let checkName ← fields.required "check_name" Json.text?
  let image ← fields.required "image" Json.text?
  return { checkName, image }

def toJson (attestation : Attestation) : Json :=
  .record [("check_name", .text attestation.checkName), ("image", .text attestation.image)]

end Attestation

structure SignedAttestation extends Attestation where
  body : String
  signature : String
  keyId : String
deriving DecidableEq, Repr

namespace SignedAttestation

def fieldNames : List String :=
  ["check_name", "image", "body", "signature", "key_id"]

def depthLimit : Nat := 127

/-- Reads an attestation that stands inside `outer` containers. It has to be an object, and what
its unknown keys hold is read as well. -/
def ofJson? (outer : Nat) (json : Json) : Option SignedAttestation :=
  match json with
  | .obj members => do
    let named ← Json.named? members
    let unknown := named.filter fun (key, _) => !fieldNames.contains key
    if unknown.all fun (_, value) =>
        value.sound Numeral.inRange && outer + 1 + value.depth ≤ depthLimit then
      let fields ← json.fields? fieldNames
      let checkName ← fields.required "check_name" Json.text?
      let image ← fields.required "image" Json.text?
      let body ← fields.required "body" Json.text?
      let signature ← fields.required "signature" Json.text?
      let keyId ← fields.required "key_id" Json.text?
      return { checkName, image, body, signature, keyId }
    else none
  | _ => none

def toJson (attestation : SignedAttestation) : Json :=
  .record [
    ("check_name", .text attestation.checkName),
    ("image", .text attestation.image),
    ("body", .text attestation.body),
    ("signature", .text attestation.signature),
    ("key_id", .text attestation.keyId)]

end SignedAttestation

end Attestor
