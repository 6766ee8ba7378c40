import Attestor.Hash.Message

namespace Attestor.Hash.Sha1

structure State where
  a : UInt32
  b : UInt32
  c : UInt32
  d : UInt32
  e : UInt32
deriving DecidableEq, Repr

def initial : State :=
  { a := 0x67452301, b := 0xefcdab89, c := 0x98badcfe, d := 0x10325476, e := 0xc3d2e1f0 }

def rotateLeft (x n : UInt32) : UInt32 :=
  (x <<< n) ||| (x >>> (32 - n))

def schedule : Nat → List UInt32 → List UInt32
  | 0, list => list
  | n + 1, list =>
    let back (i : Nat) := list.getD i 0
    schedule n (rotateLeft (back 2 ^^^ back 7 ^^^ back 13 ^^^ back 15) 1 :: list)

def mixing (round : Nat) (b c d : UInt32) : UInt32 × UInt32 :=
  if round < 20 then ((b &&& c) ||| (~~~b &&& d), 0x5a827999)
  else if round < 40 then (b ^^^ c ^^^ d, 0x6ed9eba1)
  else if round < 60 then ((b &&& c) ||| (b &&& d) ||| (c &&& d), 0x8f1bbcdc)
  else (b ^^^ c ^^^ d, 0xca62c1d6)

def step (state : State) (round : Nat) (word : UInt32) : State :=
  let (mixed, constant) := mixing round state.b state.c state.d
  { a := rotateLeft state.a 5 + mixed + state.e + constant + word
    b := state.a
    c := rotateLeft state.b 30
    d := state.c
    e := state.d }

def compress (state : State) (block : List UInt8) : State :=
  let start := (words 4 block).map UInt32.ofNat
  let rounds := (schedule 64 start.reverse).reverse
  let last := (rounds.zipIdx).foldl (fun current (word, round) => step current round word) state
  { a := state.a + last.a
    b := state.b + last.b
    c := state.c + last.c
    d := state.d + last.d
    e := state.e + last.e }

def digest (message : List UInt8) : List UInt8 :=
  let last := (blocks 64 8 message).foldl compress initial
  [last.a, last.b, last.c, last.d, last.e].flatMap fun word => bigEndian 4 word.toNat

end Attestor.Hash.Sha1
