import Attestor.Json

namespace Attestor.Json

inductive Layout where
  | compact
  | pretty
deriving DecidableEq, Repr

def Layout.lineBreak : Layout → Nat → List Char
  | .compact, _ => []
  | .pretty, level => '\n' :: List.replicate (2 * level) ' '

def Layout.colon : Layout → List Char
  | .compact => [':']
  | .pretty => [':', ' ']

def escaped (c : Char) : List Char :=
  if c = '"' then ['\\', '"']
  else if c = '\\' then ['\\', '\\']
  else if c = '\x08' then ['\\', 'b']
  else if c = '\t' then ['\\', 't']
  else if c = '\n' then ['\\', 'n']
  else if c = '\x0c' then ['\\', 'f']
  else if c = '\r' then ['\\', 'r']
  else if c.toNat < 0x20 then ['\\', 'u', '0', '0', Hex.digit (c.toNat / 16), Hex.digit (c.toNat % 16)]
  else [c]

def literal : Text → List Char
  | some text => '"' :: text.toList.flatMap escaped ++ ['"']
  | none => "\"\\ud800\"".toList

def Numeral.render (numeral : Numeral) : List Char :=
  (if numeral.negative then ['-'] else []) ++ numeral.whole ++
    (match numeral.fraction with
      | some digits => '.' :: digits
      | none => []) ++
    (match numeral.exponent with
      | some (true, digits) => 'e' :: '-' :: digits
      | some (false, digits) => 'e' :: digits
      | none => [])

mutual

def write (layout : Layout) (level : Nat) : Json → List Char
  | .null => "null".toList
  | .bool true => "true".toList
  | .bool false => "false".toList
  | .num numeral => Numeral.render numeral
  | .str text => literal text
  | .arr [] => ['[', ']']
  | .arr (item :: rest) =>
    '[' :: layout.lineBreak (level + 1) ++ write layout (level + 1) item ++
      writeItems layout (level + 1) rest ++ layout.lineBreak level ++ [']']
  | .obj [] => ['\x7b', '\x7d']
  | .obj ((key, value) :: rest) =>
    '\x7b' :: layout.lineBreak (level + 1) ++ literal key ++ layout.colon ++
      write layout (level + 1) value ++ writeMembers layout (level + 1) rest ++
      layout.lineBreak level ++ ['\x7d']

def writeItems (layout : Layout) (level : Nat) : List Json → List Char
  | [] => []
  | item :: rest =>
    ',' :: layout.lineBreak level ++ write layout level item ++ writeItems layout level rest

def writeMembers (layout : Layout) (level : Nat) : List (Text × Json) → List Char
  | [] => []
  | (key, value) :: rest =>
    ',' :: layout.lineBreak level ++ literal key ++ layout.colon ++ write layout level value ++
      writeMembers layout level rest

end

def compact (value : Json) : String :=
  String.ofList (write .compact 0 value)

def pretty (value : Json) : String :=
  String.ofList (write .pretty 0 value)

end Attestor.Json
