import Attestor.Json

namespace Attestor.Json

inductive Token where
  | openArray
  | closeArray
  | openObject
  | closeObject
  | comma
  | colon
  | null
  | bool (value : Bool)
  | num (numeral : Numeral)
  | str (text : Text)
deriving DecidableEq, Repr

inductive Mark where
  | char (c : Char)
  | unit (code : Nat)
  | stray
deriving DecidableEq, Repr

def escape? : Char → Option Char
  | '"' => some '"'
  | '\\' => some '\\'
  | '/' => some '/'
  | 'b' => some '\x08'
  | 'f' => some '\x0c'
  | 'n' => some '\n'
  | 'r' => some '\r'
  | 't' => some '\t'
  | _ => none

def marks? : List Piece → Option (List Mark × List Piece)
  | [] => none
  | .char '"' :: rest => some ([], rest)
  | .char '\\' :: .char 'u' :: .char a :: .char b :: .char c :: .char d :: rest => do
    let code ← Hex.toNat? [a, b, c, d]
    let (marks, rest) ← marks? rest
    return (.unit code :: marks, rest)
  | .char '\\' :: .char e :: rest => do
    let c ← escape? e
    let (marks, rest) ← marks? rest
    return (.char c :: marks, rest)
  | .char c :: rest => do
    if c = '\\' ∨ c.toNat < 0x20 then none
    let (marks, rest) ← marks? rest
    return (.char c :: marks, rest)
  | .stray _ :: rest => do
    let (marks, rest) ← marks? rest
    return (.stray :: marks, rest)

def isHighSurrogate (code : Nat) : Bool := 0xD800 ≤ code && code < 0xDC00

def isLowSurrogate (code : Nat) : Bool := 0xDC00 ≤ code && code < 0xE000

/-- The characters that marks spell: two escaped surrogates in a row are one character, and a
single one is none. -/
def spell? : List Mark → Option (List Char)
  | [] => some []
  | .char c :: rest => (spell? rest).map (c :: ·)
  | .stray :: _ => none
  | .unit high :: .unit low :: rest =>
    if isHighSurrogate high then
      if isLowSurrogate low then
        (spell? rest).map
          (Char.ofNat (0x10000 + (high - 0xD800) * 0x400 + (low - 0xDC00)) :: ·)
      else none
    else if isLowSurrogate high then none
    else (spell? (.unit low :: rest)).map (Char.ofNat high :: ·)
  | .unit code :: rest =>
    if isHighSurrogate code || isLowSurrogate code then none
    else (spell? rest).map (Char.ofNat code :: ·)

def stringLiteral? (pieces : List Piece) : Option (Text × List Piece) :=
  (marks? pieces).map fun (marks, rest) => ((spell? marks).map String.ofList, rest)

def spanDigits : List Piece → List Char × List Piece
  | .char c :: rest =>
    if c.isDigit then
      let (digits, rest) := spanDigits rest
      (c :: digits, rest)
    else ([], .char c :: rest)
  | pieces => ([], pieces)

def digits? (pieces : List Piece) : Option (List Char × List Piece) :=
  match spanDigits pieces with
  | ([], _) => none
  | found => some found

def whole? : List Piece → Option (List Char × List Piece)
  | .char '0' :: rest => some (['0'], rest)
  | pieces => digits? pieces

def fraction? : List Piece → Option (Option (List Char) × List Piece)
  | .char '.' :: rest => (digits? rest).map fun (digits, rest) => (some digits, rest)
  | pieces => some (none, pieces)

def exponentDigits? (negative : Bool) (pieces : List Piece) :
    Option (Option (Bool × List Char) × List Piece) :=
  (digits? pieces).map fun (digits, rest) => (some (negative, digits), rest)

def exponent? : List Piece → Option (Option (Bool × List Char) × List Piece)
  | .char 'e' :: .char '+' :: rest | .char 'E' :: .char '+' :: rest => exponentDigits? false rest
  | .char 'e' :: .char '-' :: rest | .char 'E' :: .char '-' :: rest => exponentDigits? true rest
  | .char 'e' :: rest | .char 'E' :: rest => exponentDigits? false rest
  | pieces => some (none, pieces)

def numeral? (negative : Bool) (pieces : List Piece) : Option (Numeral × List Piece) := do
  let (whole, rest) ← whole? pieces
  let (fraction, rest) ← fraction? rest
  let (exponent, rest) ← exponent? rest
  return ({ negative, whole, fraction, exponent }, rest)

def isBlank (c : Char) : Bool :=
  c == ' ' || c == '\t' || c == '\n' || c == '\r'

def token? : List Piece → Option (Token × List Piece)
  | .char '[' :: rest => some (.openArray, rest)
  | .char ']' :: rest => some (.closeArray, rest)
  | .char '\x7b' :: rest => some (.openObject, rest)
  | .char '\x7d' :: rest => some (.closeObject, rest)
  | .char ',' :: rest => some (.comma, rest)
  | .char ':' :: rest => some (.colon, rest)
  | .char 'n' :: .char 'u' :: .char 'l' :: .char 'l' :: rest => some (.null, rest)
  | .char 't' :: .char 'r' :: .char 'u' :: .char 'e' :: rest => some (.bool true, rest)
  | .char 'f' :: .char 'a' :: .char 'l' :: .char 's' :: .char 'e' :: rest =>
    some (.bool false, rest)
  | .char '"' :: rest => (stringLiteral? rest).map fun (text, rest) => (.str text, rest)
  | .char '-' :: rest => (numeral? true rest).map fun (numeral, rest) => (.num numeral, rest)
  | pieces => (numeral? false pieces).map fun (numeral, rest) => (.num numeral, rest)

def tokensWithin : (steps : Nat) → List Piece → Option (List Token)
  | _, [] => some []
  | 0, _ :: _ => none
  | steps + 1, piece :: rest =>
    match piece with
    | .char c =>
      if isBlank c then tokensWithin steps rest
      else
        match token? (piece :: rest) with
        | some (token, rest) => (tokensWithin steps rest).map (token :: ·)
        | none => none
    | .stray _ => none

def tokens? (pieces : List Piece) : Option (List Token) :=
  tokensWithin pieces.length pieces

end Attestor.Json
