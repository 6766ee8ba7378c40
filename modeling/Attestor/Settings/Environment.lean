import Attestor.Settings.Tree
import Attestor.Text.Segments

namespace Attestor.Settings

abbrev Environment := List (String × String)

namespace Environment

def namespaceMark : List Char := "voucher__".toList

def pathVariable : String := "VOUCHER_CONFIG_PATH"

def listKeys : List String :=
  ["checks.enabled", "checks.required", "diy.valid_repos", "org.urls",
    "provenance.trusted_builder_identities", "provenance.trusted_projects"]

def points : List Char → List Char
  | '_' :: '_' :: rest => '.' :: points rest
  | c :: rest => c :: points rest
  | [] => []

def key? (name : String) : Option String :=
  let name := (Text.lower name).toList
  if namespaceMark.isPrefixOf name then
    some (String.ofList (points (name.drop namespaceMark.length)))
  else none

def value (key text : String) : Tree :=
  if Text.lower text = "true" then .bool true
  else if Text.lower text = "false" then .bool false
  else
    match Number.integer? text.toList with
    | some n => .integer n
    | none =>
      match Number.float? text.toList with
      | some x => .float x
      | none =>
        if listKeys.contains key then
          .list ((Text.segments ',' text.toList).map fun item => .text (String.ofList item))
        else .text text

/-- The settings of the variables; of two variables with one key the later one counts. -/
def entries (environment : Environment) : List (String × Tree) :=
  Json.lastOfEach (environment.filterMap fun (name, text) =>
    (key? name).map fun key => (key, value key text))

end Environment

end Attestor.Settings
