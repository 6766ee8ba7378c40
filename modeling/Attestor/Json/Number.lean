import Attestor.Json
import Attestor.Number.Literal

namespace Attestor

inductive Json.Number where
  | integer (value : Int)
  | float (value : Binary64)
deriving DecidableEq, Repr

namespace Numeral

def wholeDigits (digits : List Char) : Nat × Nat :=
  digits.foldl
    (fun (value, dropped) c =>
      let next := 10 * value + (c.toNat - '0'.toNat)
      if dropped = 0 ∧ next < Nat.pow 2 64 then (next, 0) else (value, dropped + 1))
    (0, 0)

def fractionDigits (value : Nat) : List Char → Nat × Nat
  | [] => (value, 0)
  | c :: rest =>
    let next := 10 * value + (c.toNat - '0'.toNat)
    if next < Nat.pow 2 64 then
      let (value, taken) := fractionDigits next rest
      (value, taken + 1)
    else (value, 0)

def scale? (significand : Nat) (exponent : Int) : Option Binary64 :=
  let start := Binary64.ofNat significand
  if exponent > 308 then
    if significand = 0 then some start else none
  else if exponent ≥ 0 then
    let product := start.timesPower exponent.toNat
    if product.isInfinite then none else some product
  else if exponent ≥ -308 then some (start.overPower (-exponent).toNat)
  else if exponent ≥ -616 then some ((start.overPower 308).overPower (-exponent - 308).toNat)
  else some (Binary64.ofNat 0)

def value? (numeral : Numeral) : Option Json.Number :=
  let (whole, dropped) := wholeDigits numeral.whole
  let signed (x : Binary64) : Json.Number :=
    .float (if numeral.negative then x.negate else x)
  match numeral.fraction, numeral.exponent, dropped with
  | none, none, 0 =>
    let n := Number.applySign numeral.negative whole
    if Number.fits n ∧ ¬(numeral.negative ∧ whole = 0) then some (.integer n)
    else some (signed (Binary64.ofNat whole))
  | fraction, exponent, _ =>
    let (significand, taken) := fractionDigits whole (fraction.getD [])
    let (down, digits) := exponent.getD (false, [])
    let power := Number.ofDigits digits
    if power ≥ Nat.pow 2 31 then
      if significand ≠ 0 ∧ !down then none else some (signed (Binary64.ofNat 0))
    else
      (scale? significand ((dropped : Int) - taken + Number.applySign down power)).map signed

def inRange (numeral : Numeral) : Bool :=
  numeral.value?.isSome

end Numeral

end Attestor
