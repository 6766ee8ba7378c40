import Attestor.Attestation
import Attestor.Text.Case
import Attestor.Toml.Document

namespace Attestor.Settings

inductive Tree where
  /-- A value that is there but says nothing. -/
  | absent
  | bool (value : Bool)
  | integer (value : Int)
  | float (value : Binary64)
  | text (value : String)
  | list (items : List Tree)
  | table (members : List (String × Tree))
deriving Repr

namespace Tree

mutual

/-- The tree of a JSON value, if all of its numbers are in range and all of its strings spell text.
Of a repeated key the last value counts. -/
def ofJson? : Json → Option Tree
  | .null => some absent
  | .bool value => some (bool value)
  | .num numeral => numeral.value?.map fun
    | .integer value => integer value
    | .float value => float value
  | .str value => value.map text
  | .arr items => (itemsOfJson? items).map list
  | .obj members => (membersOfJson? members).map fun members => table (Json.lastOfEach members)

def itemsOfJson? : List Json → Option (List Tree)
  | [] => some []
  | item :: rest => do
    let item ← ofJson? item
    return item :: (← itemsOfJson? rest)

def membersOfJson? : List (Json.Text × Json) → Option (List (String × Tree))
  | [] => some []
  | (key, value) :: rest => do
    let key ← key
    let value ← ofJson? value
    return (key, value) :: (← membersOfJson? rest)

end

mutual

def ofToml : Toml → Tree
  | .text value => text value
  | .integer value => integer value
  | .float value => float value
  | .bool value => bool value
  | .moment value => text value.text
  | .array items => list (itemsOfToml items)
  | .table _ members => table (membersOfToml members)
  | .tables earlier last => list (tablesOfToml earlier ++ [table (membersOfToml last)])

def itemsOfToml : List Toml → List Tree
  | [] => []
  | item :: rest => ofToml item :: itemsOfToml rest

def membersOfToml : List (String × Toml) → List (String × Tree)
  | [] => []
  | (key, value) :: rest => (key, ofToml value) :: membersOfToml rest

def tablesOfToml : List (List (String × Toml)) → List Tree
  | [] => []
  | members :: rest => table (membersOfToml members) :: tablesOfToml rest

end

def members : Tree → List (String × Tree)
  | table members => members
  | _ => []

def items : Tree → List Tree
  | list items => items
  | _ => []

def member (tree : Tree) (name : String) : Tree :=
  (tree.members.lookup name).getD absent

def replace (name : String) (value : Tree) : List (String × Tree) → List (String × Tree)
  | [] => [(name, value)]
  | (other, old) :: rest =>
    if other = name then (name, value) :: rest else (other, old) :: replace name value rest

def putMember (tree : Tree) (name : String) (value : Tree) : Tree :=
  table (replace name value tree.members)

mutual

/-- Puts a value on top of an older one: tables are merged, all else replaces what was there. -/
def merge (old : Tree) : Tree → Tree
  | table members =>
    mergeMembers (match old with | absent => table [] | other => other) members
  | value => value

def mergeMembers (old : Tree) : List (String × Tree) → Tree
  | [] => old
  | (name, value) :: rest =>
    let name := Text.lower name
    mergeMembers (old.putMember name (merge (old.member name) value)) rest

end

mutual

def Keys (Holds : List String → Prop) : Tree → Prop
  | table members => Holds (members.map (·.1)) ∧ KeysInside Holds members
  | _ => True

def KeysInside (Holds : List String → Prop) : List (String × Tree) → Prop
  | [] => True
  | (_, value) :: rest => value.Keys Holds ∧ KeysInside Holds rest

end

end Tree

/-- What a file says, in which no table has a key twice. -/
abbrev Document :=
  { members : List (String × Tree) // (Tree.table members).Keys List.Nodup }

end Attestor.Settings
