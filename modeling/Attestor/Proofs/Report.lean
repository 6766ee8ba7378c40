import Attestor.Proofs.Attestation
import Attestor.Report

namespace Attestor

open Json

namespace FailureKind

theorem ofJson_toJson (kind : FailureKind) : ofJson? kind.toJson = some kind := by
  cases kind <;> decide

end FailureKind

namespace CheckResult

theorem plain (result : CheckResult) : result.toJson.sound (fun _ => false) = true := by
  simp [toJson, sound_sparse, Option.all_map, Json.text, sound, FailureKind.toJson,
    SignedAttestation.plain]

theorem ofJson_toJson (outer : Nat) (result : CheckResult) :
    ofJson? outer result.toJson = some result := by
  have spoken (text : String) : Json.text text ≠ .null := by simp [Json.text]
  have heard (text : String) : Json.text? (Json.text text) = some text := rfl
  obtain ⟨fields, opened, stated⟩ : ∃ fields, result.toJson.fields? fieldNames = some fields ∧ _ :=
    fields_sparse rfl (by decide)
  have name : fields.required "name" Json.text? = some result.name := by
    rw [Fields.required, stated]; rfl
  have success : fields.required "success" Json.bool? = some result.success := by
    rw [Fields.required, stated]; rfl
  have error : fields.optional "error" Json.text? = some result.error :=
    Fields.optional_written (stated "error") spoken heard
  have failure : fields.optional "failure" FailureKind.ofJson? = some result.failure :=
    Fields.optional_written (stated "failure") (fun kind => spoken kind.name)
      FailureKind.ofJson_toJson
  have attested : fields.withDefault "attested" Json.bool? false = some result.attested := by
    rw [Fields.withDefault, stated]; rfl
  have attestationError :
      fields.optional "attestation_error" Json.text? = some result.attestationError :=
    Fields.optional_written (stated "attestation_error") spoken heard
  have attestation :
      fields.optional "attestation" (SignedAttestation.ofJson? (outer + 1)) =
        some result.attestation :=
    Fields.optional_written (stated "attestation") SignedAttestation.toJson_ne_null
      (SignedAttestation.ofJson_toJson (outer + 1))
  simp only [ofJson?, opened, name, success, error, failure, attested, attestationError,
    attestation, Option.bind_eq_bind, Option.bind_some, Option.pure_def]

end CheckResult

namespace Report

theorem plain (report : Report) : report.toJson.sound (fun _ => false) = true := by
  simp [toJson, sound_record, sound_ofList, Json.text, sound, CheckResult.plain]

theorem ofJson_toJson (report : Report) : ofJson? report.toJson = some report := by
  change (list? (CheckResult.ofJson? 2) (.ofList CheckResult.toJson report.results)).bind
    (fun results => some { report with results }) = some report
  rw [list_ofList (CheckResult.ofJson_toJson 2)]
  rfl

/-- On one line, with an item to a line and with a line break behind it, as the command line prints
it, a report is read as itself. -/
theorem read_printed (report : Report) :
    (ofString? report.toJson.compact).bind ofJson? = some report ∧
      (ofString? report.toJson.pretty).bind ofJson? = some report ∧
      (ofString? (report.toJson.pretty ++ "\n")).bind ofJson? = some report ∧
      (ofBytes? (Text.encode (report.toJson.pretty ++ "\n"))).bind ofJson? = some report := by
  have read := ofJson_toJson report
  have plain := report.plain
  rw [ofBytes_encode, ofString_compact plain, ofString_pretty plain, ofString_line plain]
  exact ⟨read, read, read, read⟩

end Report

end Attestor
