import Attestor.Octets

namespace Attestor.OpenPgp

structure Packet where
  tag : Nat
  body : List UInt8
deriving DecidableEq, Repr

namespace Packet

def signatureTag : Nat := 2

def secretKeyTag : Nat := 5

def publicKeyTag : Nat := 6

def secretSubkeyTag : Nat := 7

def markerTag : Nat := 10

def trustTag : Nat := 12

def userIdTag : Nat := 13

def publicSubkeyTag : Nat := 14

def userAttributeTag : Nat := 17

def paddingTag : Nat := 21

def newLength? : List UInt8 → Option (Nat × List UInt8)
  | [] => none
  | first :: rest =>
    let n := first.toNat
    if n < 192 then some (n, rest)
    else if n < 224 then
      match rest with
      | [] => none
      | second :: rest => some ((n - 192) * 256 + second.toNat + 192, rest)
    else if n = 255 then Octets.number? 4 rest
    else none

/-- The length of a body in the old format; a body without a stated length is refused. -/
def oldLength? (kind : Nat) (bytes : List UInt8) : Option (Nat × List UInt8) :=
  match kind with
  | 0 => Octets.number? 1 bytes
  | 1 => Octets.number? 2 bytes
  | 2 => Octets.number? 4 bytes
  | _ => none

def header? : List UInt8 → Option (Nat × Nat × List UInt8)
  | [] => none
  | first :: rest =>
    let n := first.toNat
    if n < 128 then none
    else if n ≥ 192 then
      (newLength? rest).map fun (length, rest) => (n - 192, length, rest)
    else
      (oldLength? (n % 4) rest).map fun (length, rest) => ((n - 128) / 4, length, rest)

def read? (bytes : List UInt8) : Option (Packet × List UInt8) := do
  let (tag, length, rest) ← header? bytes
  let (body, rest) ← Octets.split? length rest
  return ({ tag, body }, rest)

def readAllWithin : (steps : Nat) → List UInt8 → Option (List Packet)
  | _, [] => some []
  | 0, _ :: _ => none
  | steps + 1, bytes => do
    let (packet, rest) ← read? bytes
    let packets ← readAllWithin steps rest
    return packet :: packets

def readAll? (bytes : List UInt8) : Option (List Packet) :=
  readAllWithin bytes.length bytes

def lengthBytes (length : Nat) : List UInt8 :=
  if length < 192 then [UInt8.ofNat length]
  else if length < 8384 then Hash.bigEndian 2 (length - 192 + 192 * 256)
  else 255 :: Hash.bigEndian 4 length

def write (packet : Packet) : List UInt8 :=
  UInt8.ofNat (192 + packet.tag) :: lengthBytes packet.body.length ++ packet.body

end Packet

end Attestor.OpenPgp
