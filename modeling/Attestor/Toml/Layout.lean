namespace Attestor.Toml

def isBlank (c : Char) : Bool :=
  c == ' ' || c == '\t'

def isPlain (c : Char) : Bool :=
  c == '\t' || (0x20 ≤ c.toNat && c.toNat ≠ 0x7F)

def skipBlanks (input : List Char) : List Char :=
  input.dropWhile isBlank

def newline? : List Char → Option (List Char)
  | '\n' :: rest => some rest
  | '\r' :: '\n' :: rest => some rest
  | _ => none

def skipComment : List Char → List Char
  | '#' :: rest => rest.dropWhile isPlain
  | input => input

def endLine? (input : List Char) : Option (List Char) :=
  match skipComment (skipBlanks input) with
  | [] => some []
  | rest => newline? rest

def skipLines : (steps : Nat) → List Char → List Char
  | 0, input => skipBlanks input
  | steps + 1, input =>
    match newline? (skipComment (skipBlanks input)) with
    | some rest => skipLines steps rest
    | none => skipBlanks input

def skipLayout (input : List Char) : List Char :=
  skipLines input.length input

end Attestor.Toml
