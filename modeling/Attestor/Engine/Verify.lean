import Attestor.Engine.Run
import Attestor.Payload

namespace Attestor

namespace SignedAttestation

/-- Whether an attestation vouches for an image: it names the check, the image and the key, its body
is about the image, and the signature over the body is good. -/
def vouches (attestation : SignedAttestation) (signer : Signer) (name : String)
    (image : ImageReference) (now : Nat) : Bool :=
  attestation.checkName == name && attestation.image == image.canonical &&
    attestation.keyId == signer.keyId &&
    (Payload.ofBody? attestation.body).any (·.refersTo image) &&
    OpenPgp.Detached.verify signer.publicCertificate now (Text.encode attestation.body)
      (Text.encode attestation.signature)

end SignedAttestation

namespace Engine

def attestedResult (engine : Engine) (image : ImageReference) (now : Nat)
    (attestations : List SignedAttestation) (name : String) : CheckResult :=
  match engine.keyring.signer name with
  | .error error => .failed name .unattested error.message
  | .ok signer =>
    match attestations.find? (·.vouches signer name image now) with
    | some attestation => .attestedBy name attestation
    | none => .failed name .unattested ("no valid attestation for check " ++ name)

def verify (engine : Engine) (image : ImageReference) (now : Nat) (cancelled : Bool)
    (store : Store) : Reply Error Report :=
  if cancelled then .failure .cancelled
  else do
    let attestations ← (engine.metadata.attestations image store).mapError .metadata
    return engine.report image (engine.names.map (engine.attestedResult image now attestations))

end Engine

end Attestor
