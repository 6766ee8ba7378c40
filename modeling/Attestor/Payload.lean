import Attestor.Image
import Attestor.Json.Record

namespace Attestor

structure Payload where
  dockerReference : String
  manifestDigest : String
  kind : String
deriving DecidableEq, Repr

namespace Payload

def signatureKind : String := "Google cloud binauthz container signature"

def ofImage (image : ImageReference) : Payload :=
  { dockerReference := image.name, manifestDigest := image.digest, kind := signatureKind }

def toJson (payload : Payload) : Json :=
  .record [("critical", .record [
    ("identity", .record [("docker-reference", .text payload.dockerReference)]),
    ("image", .record [("docker-manifest-digest", .text payload.manifestDigest)]),
    ("type", .text payload.kind)])]

def ofJson? (json : Json) : Option Payload := do
  let fields ← json.fields? ["critical"]
  let critical ← fields.required "critical" (Json.fields? ["identity", "image", "type"])
  let identity ← critical.required "identity" (Json.fields? ["docker-reference"])
  let dockerReference ← identity.required "docker-reference" Json.text?
  let image ← critical.required "image" (Json.fields? ["docker-manifest-digest"])
  let manifestDigest ← image.required "docker-manifest-digest" Json.text?
  let kind ← critical.required "type" Json.text?
  return { dockerReference, manifestDigest, kind }

def body (payload : Payload) : String :=
  payload.toJson.compact

def ofBody? (body : String) : Option Payload :=
  (Json.ofString? body).bind ofJson?

def refersTo (payload : Payload) (image : ImageReference) : Bool :=
  payload.dockerReference == image.name && payload.manifestDigest == image.digest

end Payload

end Attestor
