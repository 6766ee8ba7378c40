namespace Attestor.Ed25519

def prime : Nat := Nat.pow 2 255 - 19

def order : Nat := Nat.pow 2 252 + 27742317777372353535851937790883648493

def bits (n : Nat) : List Bool :=
  if n = 0 then [] else (n % 2 == 1) :: bits (n / 2)
termination_by n
decreasing_by omega

namespace Field

def add (a b : Nat) : Nat := (a + b) % prime

def sub (a b : Nat) : Nat := (a + (prime - b % prime)) % prime

def mul (a b : Nat) : Nat := a * b % prime

def negate (a : Nat) : Nat := sub 0 a

def powBits (base : Nat) : List Bool → Nat
  | [] => 1
  | bit :: rest =>
    let root := powBits (mul base base) rest
    if bit then mul base root else root

def pow (base exponent : Nat) : Nat :=
  powBits base (bits exponent)

def inverse (a : Nat) : Nat := pow a (prime - 2)

def imaginary : Nat := pow 2 ((prime - 1) / 4)

def sqrtRatio? (numerator denominator : Nat) : Option Nat :=
  let ratio := mul numerator (inverse denominator)
  let root := pow ratio ((prime + 3) / 8)
  if mul root root = ratio then some root
  else if mul root root = negate ratio then some (mul root imaginary)
  else none

end Field

end Attestor.Ed25519
