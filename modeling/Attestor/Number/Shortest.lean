import Attestor.Number.Binary64

namespace Attestor.Binary64

structure Interval where
  low : Nat
  value : Nat
  high : Nat
  denominator : Nat
  /-- Whether the ends round to the number as well. -/
  closed : Bool

/-- The interval of `significand * 2 ^ exponent`. Below a power of two the numbers stand closer. -/
def interval (significand : Nat) (exponent : Int) : Interval :=
  let unit := if exponent ≥ 0 then Nat.pow 2 exponent.toNat else 1
  let below := if significand = Nat.pow 2 52 ∧ exponent > leastExponent then 1 else 2
  { low := (4 * significand - below) * unit
    value := 4 * significand * unit
    high := (4 * significand + 2) * unit
    denominator := 4 * if exponent ≥ 0 then 1 else Nat.pow 2 (-exponent).toNat
    closed := significand % 2 == 0 }

def Interval.holds (i : Interval) (digits numerator divisor : Nat) : Bool :=
  let point := digits * numerator * i.denominator
  if i.closed then i.low * divisor ≤ point && point ≤ i.high * divisor
  else i.low * divisor < point && point < i.high * divisor

def Interval.magnitude (i : Interval) : Int :=
  let guess : Int := (Nat.toDigits 10 i.value).length - (Nat.toDigits 10 i.denominator).length
  let reached :=
    if guess ≥ 0 then i.value ≥ i.denominator * Nat.pow 10 guess.toNat
    else i.value * Nat.pow 10 (-guess).toNat ≥ i.denominator
  if reached then guess else guess - 1

def Interval.nearest? (i : Interval) (exponent : Int) : Option Nat :=
  let numerator := if exponent ≥ 0 then Nat.pow 10 exponent.toNat else 1
  let divisor := if exponent ≥ 0 then 1 else Nat.pow 10 (-exponent).toNat
  let below := i.value * divisor / (i.denominator * numerator)
  let above := below + 1
  match i.holds below numerator divisor, i.holds above numerator divisor with
  | false, false => none
  | true, false => some below
  | false, true => some above
  | true, true =>
    let distance := 2 * (i.value * divisor)
    if distance ≥ (below + above) * (i.denominator * numerator) then some above else some below

def Interval.shortest (i : Interval) : Nat × Int :=
  let grids := (List.range 17).map fun n => i.magnitude - Int.ofNat n
  (grids.findSome? fun exponent => (i.nearest? exponent).map (·, exponent)).getD (0, 0)

def positional (digits : Nat) (exponent : Int) : List Char :=
  let text := Nat.toDigits 10 digits
  if exponent ≥ 0 then text ++ List.replicate exponent.toNat '0'
  else
    let places := (-exponent).toNat
    let padded := List.replicate (places + 1 - text.length) '0' ++ text
    let fraction := (padded.drop (padded.length - places)).reverse.dropWhile (· == '0')
    let whole := padded.take (padded.length - places)
    if fraction.isEmpty then whole else whole ++ '.' :: fraction.reverse

def sign (negative : Bool) : String :=
  if negative then "-" else ""

def toText : Binary64 → String
  | nan => "NaN"
  | infinite negative => sign negative ++ "inf"
  | finite negative significand exponent =>
    if significand = 0 then sign negative ++ "0"
    else
      let (digits, power) := (interval significand exponent).shortest
      sign negative ++ String.ofList (positional digits power)

end Attestor.Binary64
