import Attestor.Number.Literal
import Attestor.Text.Hex

namespace Attestor.Toml

def digits (isDigit : Char → Bool) : List Char → List Char × List Char
  | [] => ([], [])
  | '_' :: c :: rest =>
    if isDigit c then
      let (found, rest) := digits isDigit rest
      (c :: found, rest)
    else ([], '_' :: c :: rest)
  | c :: rest =>
    if isDigit c then
      let (found, rest) := digits isDigit rest
      (c :: found, rest)
    else ([], c :: rest)

def digits? (isDigit : Char → Bool) : List Char → Option (List Char × List Char)
  | [] => none
  | c :: rest =>
    if isDigit c then
      let (found, rest) := digits isDigit rest
      some (c :: found, rest)
    else none

def whole? : List Char → Option (List Char × List Char)
  | '0' :: rest => some (['0'], rest)
  | input => digits? Char.isDigit input

def fraction? : List Char → Option (List Char × List Char)
  | '.' :: rest => digits? Char.isDigit rest
  | _ => none

def exponent? : List Char → Option (Int × List Char)
  | mark :: rest =>
    if mark = 'e' ∨ mark = 'E' then
      let (negative, rest) := Number.signed rest
      (digits? Char.isDigit rest).map fun (found, rest) =>
        (Number.applySign negative (Number.ofDigits found), rest)
    else none
  | [] => none

def decimal? (negative : Bool) (input : List Char) : Option (Binary64 × List Char) := do
  let (whole, rest) ← whole? input
  let value (fraction : List Char) (exponent : Int) : Binary64 :=
    .ofDecimal negative (Number.ofDigits (whole ++ fraction)) (exponent - fraction.length)
  match fraction? rest with
  | some (fraction, rest) =>
    match exponent? rest with
    | some (exponent, rest) => return (value fraction exponent, rest)
    | none => return (value fraction 0, rest)
  | none =>
    let (exponent, rest) ← exponent? rest
    return (value [] exponent, rest)

def float? (input : List Char) : Option (Binary64 × List Char) :=
  let (negative, rest) := Number.signed input
  match rest with
  | 'i' :: 'n' :: 'f' :: rest => some (.infinite negative, rest)
  | 'n' :: 'a' :: 'n' :: rest => some (.nan, rest)
  | _ => (decimal? negative rest).bind fun (x, rest) =>
    if x = .infinite false then none else some (x, rest)

def radixDigit? (radix : Nat) (c : Char) : Option Nat :=
  (Hex.toNat? [c]).bind fun n => if n < radix then some n else none

def radix? (radix : Nat) (input : List Char) : Option (Int × List Char) := do
  let (found, rest) ← digits? (fun c => (radixDigit? radix c).isSome) input
  let n := found.foldl (fun n c => radix * n + (radixDigit? radix c).getD 0) 0
  if Number.fits n then return ((n : Int), rest) else none

def integer? : List Char → Option (Int × List Char)
  | '0' :: 'x' :: rest => radix? 16 rest
  | '0' :: 'o' :: rest => radix? 8 rest
  | '0' :: 'b' :: rest => radix? 2 rest
  | input => do
    let (negative, rest) := Number.signed input
    let (found, rest) ← whole? rest
    let n := Number.applySign negative (Number.ofDigits found)
    if Number.fits n then return (n, rest) else none

end Attestor.Toml
