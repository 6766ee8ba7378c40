import Attestor.Attestation
import Attestor.Proofs.Json.Written

namespace Attestor.SignedAttestation

open Json

theorem plain (attestation : SignedAttestation) :
    attestation.toJson.sound (fun _ => false) = true := by
  rfl

theorem toJson_ne_null (attestation : SignedAttestation) : attestation.toJson ≠ .null := by
  simp [toJson, record]

theorem ofJson_toJson (outer : Nat) (attestation : SignedAttestation) :
    ofJson? outer attestation.toJson = some attestation := by
  rfl

end Attestor.SignedAttestation
