import Attestor.Json.Reader
import Attestor.Json.Writer

namespace Attestor.Json

def text? : Json → Option String
  | .str text => text
  | _ => none

def bool? : Json → Option Bool
  | .bool value => some value
  | _ => none

def list? {α : Type} (item? : Json → Option α) : Json → Option (List α)
  | .arr items => items.mapM item?
  | _ => none

def nullable? {α : Type} (value? : Json → Option α) : Json → Option (Option α)
  | .null => some none
  | value => (value? value).map some

def name? : Json → Option String
  | .str text => text
  | .obj [(key, .null)] => key
  | _ => none

def named? (members : List (Text × Json)) : Option (List (String × Json)) :=
  members.mapM fun (key, value) => key.map (·, value)

/-- A list of pairs in which a later pair replaces the earlier ones with its key. -/
def lastOfEach {α : Type} : List (String × α) → List (String × α)
  | [] => []
  | (key, value) :: rest =>
    if rest.any (·.1 == key) then lastOfEach rest else (key, value) :: lastOfEach rest

/-- Reads an object with any keys; of a repeated key the last value counts, but all are read. -/
def dictionary? {α : Type} (value? : Json → Option α) : Json → Option (List (String × α))
  | .obj members => do
    let members ← named? members
    let entries ← members.mapM fun (key, value) => (value? value).map (key, ·)
    return lastOfEach entries
  | _ => none

abbrev Fields := List (String × Json)

def fields? (names : List String) : Json → Option Fields
  | .obj members => do
    let members ← named? members
    let known := members.filter fun (key, _) => names.contains key
    if (known.map (·.1)).Nodup then some known else none
  | .arr items => if items.length ≤ names.length then some (names.zip items) else none
  | _ => none

def Fields.required {α : Type} (fields : Fields) (name : String) (value? : Json → Option α) :
    Option α :=
  (fields.lookup name).bind value?

def Fields.withDefault {α : Type} (fields : Fields) (name : String) (value? : Json → Option α)
    (absent : α) : Option α :=
  match fields.lookup name with
  | some value => value? value
  | none => some absent

def Fields.optional {α : Type} (fields : Fields) (name : String) (value? : Json → Option α) :
    Option (Option α) :=
  fields.withDefault name (nullable? value?) none

def sparse (members : List (String × Option Json)) : Json :=
  record (members.filterMap fun (key, value) => value.map (key, ·))

def ofOption {α : Type} (ofValue : α → Json) : Option α → Json
  | some value => ofValue value
  | none => .null

def ofList {α : Type} (ofItem : α → Json) (items : List α) : Json :=
  .arr (items.map ofItem)

def ofDictionary {α : Type} (ofValue : α → Json) (entries : List (String × α)) : Json :=
  record (entries.map fun (key, value) => (key, ofValue value))

end Attestor.Json
