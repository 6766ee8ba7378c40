namespace Attestor

/-- A number of 64 bits: `significand * 2 ^ exponent` where it is finite. The significand has at
most 53 bits, and exactly 53 unless the exponent is the least one. -/
inductive Binary64 where
  | finite (negative : Bool) (significand : Nat) (exponent : Int)
  | infinite (negative : Bool)
  | nan
deriving DecidableEq, Repr

namespace Binary64

def leastExponent : Int := -1074

def greatestExponent : Int := 971

def roundQuotient (numerator denominator : Nat) : Nat :=
  let quotient := numerator / denominator
  let twice := 2 * (numerator % denominator)
  if twice > denominator ∨ (twice = denominator ∧ quotient % 2 = 1) then quotient + 1 else quotient

def scaled (numerator denominator : Nat) (exponent : Int) : Nat × Nat :=
  if exponent ≥ 0 then (numerator, denominator * Nat.pow 2 exponent.toNat)
  else (numerator * Nat.pow 2 (-exponent).toNat, denominator)

def ofFraction (negative : Bool) (numerator denominator : Nat) : Binary64 :=
  if numerator = 0 then finite negative 0 leastExponent
  else
    let guess := max ((numerator.log2 : Int) - denominator.log2 - 53) leastExponent
    let (n, d) := scaled numerator denominator guess
    let exponent := if n / d ≥ Nat.pow 2 53 then guess + 1 else guess
    let (n, d) := scaled numerator denominator exponent
    let significand := roundQuotient n d
    let (significand, exponent) :=
      if significand = Nat.pow 2 53 then (Nat.pow 2 52, exponent + 1) else (significand, exponent)
    if exponent > greatestExponent then infinite negative
    else finite negative significand exponent

def ofDecimal (negative : Bool) (digits : Nat) (exponent : Int) : Binary64 :=
  let size : Int := (Nat.toDigits 10 digits).length
  if digits = 0 ∨ exponent + size < -400 then finite negative 0 leastExponent
  else if exponent + size > 400 then infinite negative
  else if exponent ≥ 0 then ofFraction negative (digits * Nat.pow 10 exponent.toNat) 1
  else ofFraction negative digits (Nat.pow 10 (-exponent).toNat)

def ofNat (n : Nat) : Binary64 :=
  ofFraction false n 1

def isZero : Binary64 → Bool
  | finite _ significand _ => significand == 0
  | _ => false

def isInfinite : Binary64 → Bool
  | infinite _ => true
  | _ => false

def negate : Binary64 → Binary64
  | finite negative significand exponent => finite (!negative) significand exponent
  | infinite negative => infinite (!negative)
  | nan => nan

/-- The product with a power of ten, which is rounded itself before it is used. -/
def timesPower (x : Binary64) (power : Nat) : Binary64 :=
  match x, ofNat (Nat.pow 10 power) with
  | finite negative m e, finite _ n f =>
    let (numerator, denominator) := scaled (m * n) 1 (-(e + f))
    ofFraction negative numerator denominator
  | other, _ => other

def overPower (x : Binary64) (power : Nat) : Binary64 :=
  match x, ofNat (Nat.pow 10 power) with
  | finite negative m e, finite _ n f =>
    let (numerator, denominator) := scaled m n (f - e)
    ofFraction negative numerator denominator
  | other, _ => other

end Binary64

end Attestor
