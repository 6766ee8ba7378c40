import Attestor.Attestation

namespace Attestor

inductive FailureKind where
  | rejected
  | evidence
  | cancelled
  | unattested
deriving DecidableEq, Repr

namespace FailureKind

def all : List FailureKind :=
  [rejected, evidence, cancelled, unattested]

def name : FailureKind → String
  | rejected => "rejected"
  | evidence => "evidence"
  | cancelled => "cancelled"
  | unattested => "unattested"

def ofJson? (json : Json) : Option FailureKind :=
  json.name?.bind fun text => all.find? (·.name == text)

def toJson (kind : FailureKind) : Json :=
  .text kind.name

end FailureKind

structure CheckResult where
  name : String
  success : Bool
  error : Option String := none
  failure : Option FailureKind := none
  attested : Bool := false
  attestationError : Option String := none
  attestation : Option SignedAttestation := none
deriving DecidableEq, Repr

namespace CheckResult

def failed (name : String) (kind : FailureKind) (error : String) : CheckResult :=
  { name, success := false, error := some error, failure := some kind }

def passed (name : String) : CheckResult :=
  { name, success := true }

def attestedBy (name : String) (attestation : SignedAttestation) : CheckResult :=
  { name, success := true, attested := true, attestation := some attestation }

def unsigned (name error : String) : CheckResult :=
  { name, success := true, attestationError := some error }

def fieldNames : List String :=
  ["name", "success", "error", "failure", "attested", "attestation_error", "attestation"]

def ofJson? (outer : Nat) (json : Json) : Option CheckResult := do
  let fields ← json.fields? fieldNames
  let name ← fields.required "name" Json.text?
  let success ← fields.required "success" Json.bool?
  let error ← fields.optional "error" Json.text?
  let failure ← fields.optional "failure" FailureKind.ofJson?
  let attested ← fields.withDefault "attested" Json.bool? false
  let attestationError ← fields.optional "attestation_error" Json.text?
  let attestation ← fields.optional "attestation" (SignedAttestation.ofJson? (outer + 1))
  return { name, success, error, failure, attested, attestationError, attestation }

def toJson (result : CheckResult) : Json :=
  .sparse [
    ("name", some (.text result.name)),
    ("success", some (.bool result.success)),
    ("error", result.error.map .text),
    ("failure", result.failure.map FailureKind.toJson),
    ("attested", some (.bool result.attested)),
    ("attestation_error", result.attestationError.map .text),
    ("attestation", result.attestation.map SignedAttestation.toJson)]

end CheckResult

structure Report where
  image : String
  success : Bool
  results : List CheckResult
deriving DecidableEq, Repr

namespace Report

/-- The verdict over results: required checks decide if any is among them, and all checks decide
otherwise. No results vouch for nothing. -/
def verdict (required : List String) (results : List CheckResult) : Bool :=
  match results.filter fun result => required.contains result.name with
  | [] => !results.isEmpty && results.all (·.success)
  | decisive => decisive.all (·.success)

def result? (report : Report) (name : String) : Option CheckResult :=
  report.results.find? (·.name == name)

def failed (report : Report) : List CheckResult :=
  report.results.filter fun result => !result.success

def ofJson? (json : Json) : Option Report := do
  let fields ← json.fields? ["image", "success", "results"]
  let image ← fields.required "image" Json.text?
  let success ← fields.required "success" Json.bool?
  let results ← fields.required "results" (Json.list? (CheckResult.ofJson? 2))
  return { image, success, results }

def toJson (report : Report) : Json :=
  .record [
    ("image", .text report.image),
    ("success", .bool report.success),
    ("results", .ofList CheckResult.toJson report.results)]

end Report

end Attestor
