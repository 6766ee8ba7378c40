import Attestor.Toml
import Attestor.Toml.Number
import Attestor.Toml.Quoted

namespace Attestor.Toml

def depthLimit : Nat := 79

def isBareKey (c : Char) : Bool :=
  c.isAlphanum || c == '_' || c == '-'

def keyPart? : List Char → Option (String × List Char)
  | '"' :: rest => (basic? rest).map fun (part, rest) => (String.ofList part, rest)
  | '\'' :: rest => (literal? rest).map fun (part, rest) => (String.ofList part, rest)
  | input =>
    let bare := input.takeWhile isBareKey
    if bare.isEmpty then none else some (String.ofList bare, input.dropWhile isBareKey)

def keyParts? : (steps : Nat) → List Char → Option (List String × List Char)
  | 0, _ => none
  | steps + 1, input => do
    let (part, rest) ← keyPart? (skipBlanks input)
    match skipBlanks rest with
    | '.' :: rest =>
      let (parts, rest) ← keyParts? steps rest
      return (part :: parts, rest)
    | rest => return ([part], rest)

def key? (input : List Char) : Option (List String × List Char) :=
  (keyParts? input.length input).bind fun (parts, rest) =>
    if parts.length ≤ depthLimit then some (parts, rest) else none

def number (input : List Char) : Option (Toml × List Char) :=
  match Moment.read? input with
  | some (found, rest) => some (moment found, rest)
  | none =>
    match float? input with
    | some (found, rest) => some (float found, rest)
    | none => (integer? input).map fun (found, rest) => (integer found, rest)

def simple? : List Char → Option (Toml × List Char)
  | 't' :: 'r' :: 'u' :: 'e' :: rest => some (bool true, rest)
  | 'f' :: 'a' :: 'l' :: 's' :: 'e' :: rest => some (bool false, rest)
  | input =>
    match quoted? input with
    | some (found, rest) => some (text (String.ofList found), rest)
    | none => number input

def items? (value? : List Char → Option (Toml × List Char)) :
    (steps : Nat) → List Char → Option (List Toml × List Char)
  | 0, _ => none
  | steps + 1, input =>
    match skipLayout input with
    | ']' :: rest => some ([], rest)
    | start => do
      let (item, rest) ← value? start
      match skipLayout rest with
      | ',' :: rest =>
        let (items, rest) ← items? value? steps rest
        return (item :: items, rest)
      | ']' :: rest => return ([item], rest)
      | _ => none

def pair? (value? : List Char → Option (Toml × List Char)) (input : List Char) :
    Option ((List String × Toml) × List Char) := do
  let (path, rest) ← key? input
  match rest with
  | '=' :: rest =>
    let (value, rest) ← value? (skipBlanks rest)
    return ((path, value), skipBlanks rest)
  | _ => none

def pairs? (value? : List Char → Option (Toml × List Char)) :
    (steps : Nat) → List Char → Option (List (List String × Toml) × List Char)
  | 0, _ => none
  | steps + 1, input => do
    let (pair, rest) ← pair? value? input
    match rest with
    | ',' :: rest =>
      let (pairs, rest) ← pairs? value? steps rest
      return (pair :: pairs, rest)
    | '\x7d' :: rest => return ([pair], rest)
    | _ => none

def inlineTable? (value? : List Char → Option (Toml × List Char)) (input : List Char) :
    Option (Toml × List Char) :=
  match skipBlanks input with
  | '\x7d' :: rest => some (table .inline [], rest)
  | start => do
    let (pairs, rest) ← pairs? value? input.length start
    let members ← pairs.foldlM (fun members (path, value) => define path value members) []
    return (table .inline members, rest)

def value? : (depth : Nat) → List Char → Option (Toml × List Char)
  | depth + 1, '[' :: rest =>
    (items? (value? depth) rest.length rest).map fun (items, rest) => (array items, rest)
  | depth + 1, '\x7b' :: rest => inlineTable? (value? depth) rest
  | _, input => simple? input

structure Draft where
  members : Members := []
  header : List String := []

def header? (closing : List Char) (input : List Char) : Option (List String × List Char) := do
  let (path, rest) ← key? input
  if closing.isPrefixOf rest then return (path, ← endLine? (rest.drop closing.length)) else none

def Draft.line? (draft : Draft) : List Char → Option (Draft × List Char)
  | '[' :: '[' :: rest => do
    let (path, rest) ← header? [']', ']'] rest
    return ({ members := ← atLast beginItem path draft.members, header := path }, rest)
  | '[' :: rest => do
    let (path, rest) ← header? [']'] rest
    return ({ members := ← atLast beginTable path draft.members, header := path }, rest)
  | input => do
    let ((path, value), rest) ← pair? (value? depthLimit) input
    let members ← within (define path value) draft.header draft.members
    return ({ draft with members }, ← endLine? rest)

def Draft.lines? : (steps : Nat) → Draft → List Char → Option Members
  | 0, _, _ => none
  | steps + 1, draft, input =>
    match skipBlanks input with
    | [] => some draft.members
    | start =>
      match endLine? start with
      | some rest => lines? steps draft rest
      | none => (draft.line? start).bind fun (draft, rest) => lines? steps draft rest

def document? (input : List Char) : Option Members :=
  let input := match input with
    | '\ufeff' :: rest => rest
    | _ => input
  Draft.lines? (input.length + 1) {} input

end Attestor.Toml
