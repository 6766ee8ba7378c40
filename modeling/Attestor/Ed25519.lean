import Attestor.Ed25519.Curve
import Attestor.Hash.Sha512

namespace Attestor.Ed25519

open Hash.Sha512

def challenge (bytes : List UInt8) : Nat :=
  ofLittleEndian (digest512 bytes) % order

def expand (seed : List UInt8) : Nat × List UInt8 :=
  let bytes := digest512 seed
  let low := ofLittleEndian (bytes.take 32)
  (Nat.pow 2 254 + low % Nat.pow 2 254 / 8 * 8, bytes.drop 32)

def publicKey (seed : List UInt8) : List UInt8 :=
  (Point.times (expand seed).1 Point.base).encode

def sign (seed message : List UInt8) : List UInt8 :=
  let (secret, nonceKey) := expand seed
  let publicBytes := (Point.times secret Point.base).encode
  let nonce := challenge (nonceKey ++ message)
  let commitment := (Point.times nonce Point.base).encode
  let response := (nonce + challenge (commitment ++ publicBytes ++ message) * secret) % order
  commitment ++ littleEndian 32 response

def verify (publicBytes message signature : List UInt8) : Bool :=
  let commitment := signature.take 32
  let response := ofLittleEndian (signature.drop 32)
  match Point.decode? publicBytes with
  | none => false
  | some key =>
    let factor := challenge (commitment ++ publicBytes ++ message)
    signature.length == 64 && response < order &&
      (Point.add (Point.times response Point.base) (Point.times factor key.negate)).encode ==
        commitment

end Attestor.Ed25519
