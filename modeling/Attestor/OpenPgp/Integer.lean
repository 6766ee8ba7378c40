import Attestor.Octets

namespace Attestor.OpenPgp

namespace Integer

def trim : List UInt8 → List UInt8
  | [] => []
  | byte :: rest => if byte = 0 then trim rest else byte :: rest

def bitLength (bytes : List UInt8) : Nat :=
  match trim bytes with
  | [] => 0
  | first :: rest => first.toNat.log2 + 1 + 8 * rest.length

def read? (bytes : List UInt8) : Option (List UInt8 × List UInt8) := do
  let (size, rest) ← Octets.number? 2 bytes
  let (value, rest) ← Octets.split? ((size + 7) / 8) rest
  if bitLength value = size then return (value, rest) else none

def write (bytes : List UInt8) : List UInt8 :=
  Hash.bigEndian 2 (bitLength bytes) ++ trim bytes

def padded? (size : Nat) (bytes : List UInt8) : Option (List UInt8) :=
  if bytes.length ≤ size then some (List.replicate (size - bytes.length) 0 ++ bytes) else none

def fixed (size : Nat) (bytes : List UInt8) : List UInt8 :=
  List.replicate (size - bytes.length) 0 ++ bytes.take size

end Integer

end Attestor.OpenPgp
