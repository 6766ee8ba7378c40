import Attestor.Number.Literal
import Attestor.Settings.Tree

namespace Attestor.Settings

inductive Step where
  | member (name : String)
  /-- Negative indices count from the end. -/
  | item (index : Int)
deriving DecidableEq, Repr

namespace Step

def isNameChar (c : Char) : Bool :=
  c.isAlphanum || c == ' ' || c == '_' || c == '-'

def isBlank (c : Char) : Bool :=
  c == ' ' || c == '\t'

def index? (key : List Char) : Option (Int × List Char) :=
  let start := key.dropWhile isBlank
  let (negative, rest) := match start with
    | '-' :: rest => (true, rest)
    | rest => (false, rest)
  let digits := rest.takeWhile Char.isDigit
  let index := Number.applySign negative (Number.ofDigits digits)
  match (rest.dropWhile Char.isDigit).dropWhile isBlank with
  | ']' :: rest => if digits.isEmpty || !Number.fits index then none else some (index, rest)
  | _ => none

def name? (key : List Char) : Option (Step × List Char) :=
  let name := key.takeWhile isNameChar
  if name.isEmpty then none else some (member (String.ofList name), key.dropWhile isNameChar)

def rest? : (bound : Nat) → List Char → Option (List Step)
  | _, [] => some []
  | bound + 1, '.' :: key => do
    let (step, key) ← name? key
    return step :: (← rest? bound key)
  | bound + 1, '[' :: key => do
    let (index, key) ← index? key
    return item index :: (← rest? bound key)
  | _, _ => none

def ofKey (key : String) : List Step :=
  let steps? := do
    let (step, rest) ← name? key.toList
    return step :: (← rest? rest.length rest)
  steps?.getD [member key]

end Step

namespace Tree

def reach (items : List Tree) (index : Int) : List Tree × Nat :=
  if index ≥ 0 then
    (items ++ List.replicate (index.toNat + 1 - items.length) absent, index.toNat)
  else
    let missing := index.natAbs - items.length
    (List.replicate missing absent ++ items, items.length - index.natAbs)

/-- Changes the part of a tree that steps lead to. Tables and lists on the way are made where they
are not there. -/
def change (f : Tree → Tree) : List Step → Tree → Tree
  | [], tree => f tree
  | .member name :: steps, tree =>
    let name := Text.lower name
    tree.putMember name (change f steps (tree.member name))
  | .item index :: steps, tree =>
    let (items, place) := reach tree.items index
    list (items.set place (change f steps (items.getD place absent)))

def set (tree : Tree) (key : String) (value : Tree) : Tree :=
  tree.change (fun old => old.merge value) (Step.ofKey key)

def setAll (tree : Tree) (entries : List (String × Tree)) : Tree :=
  entries.foldl (fun tree (key, value) => tree.set key value) tree

end Tree

end Attestor.Settings
