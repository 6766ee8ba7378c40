import Attestor.Hash.Message

namespace Attestor.Octets

def split? (count : Nat) (bytes : List UInt8) : Option (List UInt8 × List UInt8) :=
  if bytes.length < count then none else some (bytes.take count, bytes.drop count)

def number? (count : Nat) (bytes : List UInt8) : Option (Nat × List UInt8) :=
  (split? count bytes).map fun (head, rest) => (Hash.ofBigEndian head, rest)

def exactly? (count : Nat) (bytes : List UInt8) : Option Nat :=
  if bytes.length = count then some (Hash.ofBigEndian bytes) else none

end Attestor.Octets
