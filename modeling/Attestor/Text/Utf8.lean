namespace Attestor

inductive Piece where
  | char (c : Char)
  | stray (byte : UInt8)
deriving DecidableEq, Repr

namespace Text

def continuation? (byte : UInt8) : Option Nat :=
  if 0x80 ≤ byte.toNat ∧ byte.toNat < 0xC0 then some (byte.toNat - 0x80) else none

def charFrom? (least code : Nat) : Option Char :=
  if least ≤ code then
    if h : code.isValidChar then some (Char.ofNatAux code h) else none
  else none

def leading? (first : UInt8) (rest : List UInt8) : Option (Char × Nat) :=
  let lead := first.toNat
  if lead < 0x80 then
    (charFrom? 0 lead).map (·, 0)
  else if lead < 0xC0 then
    none
  else if lead < 0xE0 then
    match rest with
    | b :: _ => do
      let low ← continuation? b
      let c ← charFrom? 0x80 ((lead - 0xC0) * 64 + low)
      return (c, 1)
    | _ => none
  else if lead < 0xF0 then
    match rest with
    | a :: b :: _ => do
      let mid ← continuation? a
      let low ← continuation? b
      let c ← charFrom? 0x800 (((lead - 0xE0) * 64 + mid) * 64 + low)
      return (c, 2)
    | _ => none
  else if lead < 0xF8 then
    match rest with
    | a :: b :: c :: _ => do
      let high ← continuation? a
      let mid ← continuation? b
      let low ← continuation? c
      let c ← charFrom? 0x10000 ((((lead - 0xF0) * 64 + high) * 64 + mid) * 64 + low)
      return (c, 3)
    | _ => none
  else none

def piecesAfter : (taken : Nat) → List UInt8 → List Piece
  | _, [] => []
  | taken + 1, _ :: rest => piecesAfter taken rest
  | 0, byte :: rest =>
    match leading? byte rest with
    | some (c, taken) => .char c :: piecesAfter taken rest
    | none => .stray byte :: piecesAfter 0 rest

def pieces (bytes : List UInt8) : List Piece :=
  piecesAfter 0 bytes

def ofString (text : String) : List Piece :=
  text.toList.map .char

def chars? : List Piece → Option (List Char)
  | [] => some []
  | .char c :: rest => (chars? rest).map (c :: ·)
  | .stray _ :: _ => none

def decode? (bytes : List UInt8) : Option String :=
  (chars? (pieces bytes)).map String.ofList

def encode (text : String) : List UInt8 :=
  text.toUTF8.data.toList

end Text

end Attestor
