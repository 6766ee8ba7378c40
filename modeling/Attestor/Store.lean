import Attestor.Attestation
import Attestor.Image

namespace Attestor

structure Store where
  entries : List (ImageReference × List SignedAttestation) := []
deriving DecidableEq, Repr

namespace Store

def attestations (store : Store) (image : ImageReference) : List SignedAttestation :=
  (store.entries.lookup image).getD []

def append (image : ImageReference) (attestation : SignedAttestation) :
    List (ImageReference × List SignedAttestation) → List (ImageReference × List SignedAttestation)
  | [] => [(image, [attestation])]
  | (other, list) :: rest =>
    if other = image then (image, list ++ [attestation]) :: rest
    else (other, list) :: append image attestation rest

def add (store : Store) (image : ImageReference) (attestation : SignedAttestation) : Store :=
  { entries := append image attestation store.entries }

def precedes (a b : SignedAttestation) : Bool :=
  a.image < b.image || (a.image == b.image && a.checkName ≤ b.checkName)

/-- All attestations in the order in which they are kept; those of one image and check stand in
order of submission. -/
def toList (store : Store) : List SignedAttestation :=
  (store.entries.flatMap (·.2)).mergeSort precedes

def ofList (list : List SignedAttestation) : Except ImageError Store :=
  list.foldlM (fun store attestation => do
    let image ← ImageReference.parse attestation.image
    return store.add image attestation) {}

def document (store : Store) : String :=
  (Json.ofList SignedAttestation.toJson store.toList).pretty

def readDocument? (bytes : List UInt8) : Option (List SignedAttestation) :=
  (Json.ofBytes? bytes).bind (Json.list? (SignedAttestation.ofJson? 1))

end Store

end Attestor
