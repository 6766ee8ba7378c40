import Attestor.Json.Record

namespace Attestor

/-- How grave a finding is, in rising order. A finding that nobody has classified ranks between
medium and high, so that no threshold up to medium passes over it. -/
inductive Severity where
  | negligible
  | low
  | medium
  | unknown
  | high
  | critical
deriving DecidableEq, Repr

namespace Severity

def all : List Severity :=
  [negligible, low, medium, unknown, high, critical]

def rank : Severity → Nat
  | negligible => 0
  | low => 1
  | medium => 2
  | unknown => 3
  | high => 4
  | critical => 5

instance : LE Severity where
  le a b := a.rank ≤ b.rank

instance (a b : Severity) : Decidable (a ≤ b) :=
  inferInstanceAs (Decidable (a.rank ≤ b.rank))

def name : Severity → String
  | negligible => "negligible"
  | low => "low"
  | medium => "medium"
  | unknown => "unknown"
  | high => "high"
  | critical => "critical"

def ofName? (text : String) : Option Severity :=
  all.find? (·.name == text)

def ofAnyCase? (text : String) : Option Severity :=
  ofName? (text.map Char.toLower)

def ofJson? (json : Json) : Option Severity :=
  json.name?.bind ofName?

def toJson (severity : Severity) : Json :=
  .text severity.name

end Severity

structure Vulnerability where
  name : String
  description : String := ""
  fixAvailable : Bool := false
  severity : Severity := .unknown
deriving DecidableEq, Repr

namespace Vulnerability

def ofJson? (json : Json) : Option Vulnerability := do
  let fields ← json.fields? ["name", "description", "fix_available", "severity"]
  let name ← fields.required "name" Json.text?
  let description ← fields.withDefault "description" Json.text? ""
  let fixAvailable ← fields.withDefault "fix_available" Json.bool? false
  let severity ← fields.withDefault "severity" Severity.ofJson? .unknown
  return { name, description, fixAvailable, severity }

def toJson (finding : Vulnerability) : Json :=
  .record [
    ("name", .text finding.name),
    ("description", .text finding.description),
    ("fix_available", .bool finding.fixAvailable),
    ("severity", finding.severity.toJson)]

end Vulnerability

end Attestor
