import Attestor.Payload
import Attestor.Proofs.Json.RoundTrip

namespace Attestor.Payload

theorem ofJson_toJson (payload : Payload) : ofJson? payload.toJson = some payload := by
  rfl

theorem ofBody_body (payload : Payload) : ofBody? payload.body = some payload := by
  rw [ofBody?, body, Json.ofString_compact rfl]
  exact ofJson_toJson payload

end Attestor.Payload
