import Attestor.Image.Grammar

namespace Attestor

structure ImageReference where
  name : String
  digest : String
deriving DecidableEq, Repr

inductive ReferenceFlaw where
  | emptyName
  | invalidFormat
  | nameTooLong
  | digestLength
  | digestAlgorithm
deriving DecidableEq, Repr

def ReferenceFlaw.message : ReferenceFlaw → String
  | emptyName => "repository name must have at least one component"
  | invalidFormat => "invalid reference format"
  | nameTooLong => "repository name must not be more than 255 characters"
  | digestLength => "invalid checksum digest length"
  | digestAlgorithm => "unsupported digest algorithm"

inductive ImageError where
  | malformed (reference : String) (flaw : ReferenceFlaw)
  | missingDigest (reference : String)
  | malformedDigest (reference digest : String)
deriving DecidableEq, Repr

def ImageError.message : ImageError → String
  | malformed reference _ => s!"failed to parse image reference `{reference}`"
  | missingDigest reference => s!"image reference `{reference}` is not pinned to a digest"
  | malformedDigest reference digest =>
    s!"image reference `{reference}` carries a malformed digest `{digest}`"

namespace Image

structure Location where
  registry : List Char
  repository : List Char
deriving DecidableEq, Repr

def defaultRegistry : List Char := "docker.io".toList

def defaultRegistryAlias : List Char := "index.docker.io".toList

def officialPath : List Char := "library/".toList

def isRegistry (component : List Char) : Bool :=
  component.contains '.' || component.contains ':' || component == "localhost".toList

/-- A name with its registry told apart; a name without one is served by the default registry. -/
def locate (name : List Char) : Location :=
  match Text.cut '/' name with
  | (first, some rest) =>
    if isRegistry first then { registry := first, repository := rest }
    else { registry := defaultRegistry, repository := name }
  | (_, none) => { registry := defaultRegistry, repository := name }

/-- The alias of the default registry is replaced, and a path of one component there is one of
its official images. -/
def Location.normalize (location : Location) : Location :=
  let registry :=
    if location.registry = defaultRegistryAlias then defaultRegistry else location.registry
  if registry = defaultRegistry ∧ '/' ∉ location.repository then
    { registry, repository := officialPath ++ location.repository }
  else
    { registry, repository := location.repository }

def digestLength? (algorithm : List Char) : Option Nat :=
  if algorithm = "sha256".toList then some 64
  else if algorithm = "sha384".toList then some 96
  else if algorithm = "sha512".toList then some 128
  else none

def digestFlaw? (digest : List Char) : Option ReferenceFlaw :=
  let (algorithm, digits) := Text.cut ':' digest
  match digestLength? algorithm with
  | none => some .digestAlgorithm
  | some length => if (digits.getD []).length = length then none else some .digestLength

def readReference (text : List Char) : Except ReferenceFlaw (Location × Option (List Char)) :=
  if text.isEmpty then .error .emptyName
  else
    let parts := Grammar.cutReference text
    if !parts.wellFormed then .error .invalidFormat
    else
      let location := (locate parts.name).normalize
      if location.repository.length > 255 then .error .nameTooLong
      else match parts.digest.bind digestFlaw? with
        | some flaw => .error flaw
        | none => .ok (location, parts.digest)

def hasBytes (digest : List Char) : Bool :=
  match Text.cut ':' digest with
  | (_, some digits) => !digits.isEmpty && (Hex.decode? digits).isSome
  | (_, none) => false

end Image

namespace ImageReference

def parse (reference : String) : Except ImageError ImageReference :=
  match Image.readReference reference.toList with
  | .error flaw => .error (.malformed reference flaw)
  | .ok (_, none) => .error (.missingDigest reference)
  | .ok (location, some digest) =>
    if Image.hasBytes digest then
      .ok {
        name := String.ofList (location.registry ++ '/' :: location.repository)
        digest := String.ofList digest
      }
    else .error (.malformedDigest reference (String.ofList digest))

def canonical (image : ImageReference) : String :=
  image.name ++ "@" ++ image.digest

end ImageReference

end Attestor
