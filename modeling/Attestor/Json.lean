import Attestor.Text.Hex
import Attestor.Text.Utf8

namespace Attestor

structure Numeral where
  negative : Bool
  whole : List Char
  fraction : Option (List Char)
  exponent : Option (Bool × List Char)
deriving DecidableEq, Repr

/-- The text between quotes; `none` when lone surrogates or stray bytes leave no Unicode text. -/
abbrev Json.Text := Option String

/-- A JSON value. The members of an object stand in the order of the document, repeated keys
included. -/
inductive Json where
  | null
  | bool (value : Bool)
  | num (numeral : Numeral)
  | str (text : Json.Text)
  | arr (items : List Json)
  | obj (members : List (Json.Text × Json))
deriving Repr

namespace Json

def text (s : String) : Json :=
  .str (some s)

def record (members : List (String × Json)) : Json :=
  .obj (members.map fun (key, value) => (some key, value))

mutual

def depth : Json → Nat
  | .arr items => depthItems items + 1
  | .obj members => depthMembers members + 1
  | _ => 0

def depthItems : List Json → Nat
  | [] => 0
  | item :: rest => max (depth item) (depthItems rest)

def depthMembers : List (Json.Text × Json) → Nat
  | [] => 0
  | (_, value) :: rest => max (depth value) (depthMembers rest)

end

mutual

def sound (test : Numeral → Bool) : Json → Bool
  | .num numeral => test numeral
  | .str text => text.isSome
  | .arr items => soundItems test items
  | .obj members => soundMembers test members
  | _ => true

def soundItems (test : Numeral → Bool) : List Json → Bool
  | [] => true
  | item :: rest => sound test item && soundItems test rest

def soundMembers (test : Numeral → Bool) : List (Json.Text × Json) → Bool
  | [] => true
  | (key, value) :: rest => key.isSome && sound test value && soundMembers test rest

end

end Json

end Attestor
