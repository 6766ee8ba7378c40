import Attestor.Text.Hex
import Attestor.Text.Segments
import Attestor.Text.Word

namespace Attestor.Image.Grammar

open Attestor.Text

def isLower (c : Char) : Bool := 'a' ≤ c && c ≤ 'z'

def isUpper (c : Char) : Bool := 'A' ≤ c && c ≤ 'Z'

def isNumeral (c : Char) : Bool := '0' ≤ c && c ≤ '9'

def isLetter (c : Char) : Bool := isLower c || isUpper c

def isAlphanumeric (c : Char) : Bool := isLetter c || isNumeral c

inductive PathState where
  | start
  | word
  | dot
  | underscore
  | underscores
  | dashes
deriving DecidableEq

def PathState.step (state : PathState) (c : Char) : Option PathState :=
  if isLower c || isNumeral c then some .word
  else match state, c with
    | .word, '.' => some .dot
    | .word, '_' => some .underscore
    | .word, '-' => some .dashes
    | .underscore, '_' => some .underscores
    | .dashes, '-' => some .dashes
    | _, _ => none

/-- A path component: runs of lower-case letters and digits, with a dot, one or two underscores or
any number of dashes between two runs. -/
def isPathComponent (text : List Char) : Bool :=
  text.foldlM PathState.step .start == some .word

def isLabel (text : List Char) : Bool :=
  text.all (fun c => isAlphanumeric c || c == '-') &&
    text.head?.any isAlphanumeric && text.getLast?.any isAlphanumeric

def isHost (text : List Char) : Bool :=
  let (name, port) := cut ':' text
  (segments '.' name).all isLabel && port.all fun digits => !digits.isEmpty && digits.all isNumeral

def isName (text : List Char) : Bool :=
  match segments '/' text with
  | [] => false
  | [only] => isPathComponent only
  | first :: rest => (isHost first || isPathComponent first) && rest.all isPathComponent

def isTag : List Char → Bool
  | [] => false
  | c :: rest => isWord c && rest.all (fun c => isWord c || c == '.' || c == '-') && rest.length ≤ 127

def algorithmStep (begins : Bool) (c : Char) : Option Bool :=
  if isLetter c then some false
  else if begins then none
  else if isNumeral c then some false
  else if c = '-' ∨ c = '_' ∨ c = '+' ∨ c = '.' then some true
  else none

/-- A digest algorithm: parts that begin with a letter, with single separators between them. -/
def isAlgorithm (text : List Char) : Bool :=
  text.foldlM algorithmStep true == some false

def isDigest (text : List Char) : Bool :=
  match cut ':' text with
  | (algorithm, some digits) => isAlgorithm algorithm && 32 ≤ digits.length && digits.all Hex.isDigit
  | (_, none) => false

def splitTag : List Char → List Char × Option (List Char)
  | [] => ([], none)
  | c :: rest =>
    match splitTag rest with
    | (name, some tag) => (c :: name, some tag)
    | (name, none) => if c = ':' ∧ '/' ∉ rest then ([], some rest) else (c :: name, none)

structure Parts where
  name : List Char
  tag : Option (List Char)
  digest : Option (List Char)
deriving DecidableEq, Repr

/-- The only way in which a text can be cut into the parts of a reference. -/
def cutReference (text : List Char) : Parts :=
  let (front, digest) := cut '@' text
  let (name, tag) := splitTag front
  { name, tag, digest }

def Parts.wellFormed (parts : Parts) : Bool :=
  isName parts.name && parts.tag.all isTag && parts.digest.all isDigest

end Attestor.Image.Grammar
