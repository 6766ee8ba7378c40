import Attestor.Ed25519.Field

namespace Attestor.Ed25519

def ofLittleEndian (bytes : List UInt8) : Nat :=
  bytes.foldr (fun byte n => byte.toNat + 256 * n) 0

def littleEndian : (count : Nat) → Nat → List UInt8
  | 0, _ => []
  | count + 1, n => UInt8.ofNat n :: littleEndian count (n / 256)

structure Point where
  x : Nat
  y : Nat
  z : Nat
  t : Nat
deriving DecidableEq, Repr

namespace Point

open Attestor.Ed25519.Field

def d : Nat := negate (mul 121665 (inverse 121666))

def zero : Point := { x := 0, y := 1, z := 1, t := 0 }

def ofAffine (x y : Nat) : Point := { x, y, z := 1, t := mul x y }

def addWith (twiceD : Nat) (p q : Point) : Point :=
  let a := mul (sub p.y p.x) (sub q.y q.x)
  let b := mul (add p.y p.x) (add q.y q.x)
  let c := mul (mul p.t twiceD) q.t
  let e := mul (add p.z p.z) q.z
  let f := sub b a
  let g := sub e c
  let h := add e c
  let i := add b a
  { x := mul f g, y := mul h i, z := mul g h, t := mul f i }

def add (p q : Point) : Point :=
  addWith (mul 2 d) p q

def negate (p : Point) : Point :=
  { p with x := Field.negate p.x, t := Field.negate p.t }

def timesBits (twiceD : Nat) : Point → List Bool → Point
  | _, [] => zero
  | p, bit :: rest =>
    let multiple := timesBits twiceD (addWith twiceD p p) rest
    if bit then addWith twiceD p multiple else multiple

def times (n : Nat) (p : Point) : Point :=
  timesBits (mul 2 d) p (bits n)

def encode (p : Point) : List UInt8 :=
  let inverse := Field.inverse p.z
  let x := mul p.x inverse
  let y := mul p.y inverse
  littleEndian 32 (y + x % 2 * Nat.pow 2 255)

def decode? (bytes : List UInt8) : Option Point :=
  if bytes.length ≠ 32 then none
  else
    let n := ofLittleEndian bytes
    let y := n % Nat.pow 2 255 % prime
    let square := mul y y
    (sqrtRatio? (sub square 1) (Field.add (mul d square) 1)).map fun root =>
      let x := if root % 2 = n / Nat.pow 2 255 then root else Field.negate root
      ofAffine x y

def base : Point :=
  (decode? (littleEndian 32 (mul 4 (inverse 5)))).getD zero

end Point

end Attestor.Ed25519
