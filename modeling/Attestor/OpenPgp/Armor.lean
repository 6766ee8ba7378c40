import Attestor.Text.Base64
import Attestor.OpenPgp.Packet

namespace Attestor.OpenPgp

inductive Armor where
  | message
  | publicKey
  | privateKey
  | signature
  | file
deriving DecidableEq, Repr

namespace Armor

def all : List Armor :=
  [message, publicKey, privateKey, signature, file]

def label : Armor → String
  | message => "MESSAGE"
  | publicKey => "PUBLIC KEY BLOCK"
  | privateKey => "PRIVATE KEY BLOCK"
  | signature => "SIGNATURE"
  | file => "ARMORED FILE"

def isBlank (c : Char) : Bool :=
  c == ' ' || c == '\t' || c == '\r' || c == '\n'

def isQuote (c : Char) : Bool :=
  isBlank c || c == '>' || c == '|' || c == ']' || c == '\x7d'

def after? (opening text : List Char) : Option (List Char) :=
  if opening.isPrefixOf text then some (text.drop opening.length) else none

def delimiter? (word : String) (text : List Char) : Option (Armor × List Char) := do
  let rest ← after? word.toList (text.dropWhile (· == '-'))
  all.findSome? fun armor =>
    (after? armor.label.toList rest).map fun rest => (armor, rest.dropWhile (· == '-'))

def lines (text : List Char) : List (List Char) :=
  let rec go (line : List Char) : List Char → List (List Char)
    | [] => [line.reverse]
    | c :: rest => if c = '\n' then line.reverse :: go [] rest else go (c :: line) rest
  go [] text

structure Opened where
  armor : Armor
  quote : List Char
  lines : List (List Char)

def open? : List (List Char) → Option Opened
  | [] => none
  | line :: rest =>
    match delimiter? "BEGIN PGP " (line.dropWhile isQuote) with
    | some (armor, tail) =>
      some { armor, quote := line.takeWhile isQuote, lines := tail :: rest }
    | none => open? rest

def unquote? (quote line : List Char) : Option (List Char) :=
  if quote.all isBlank then some line
  else match after? quote line with
    | some rest => some rest
    | none => if (line.filter (!isBlank ·)) = quote.filter (!isBlank ·) then some [] else none

def isKeyValue : List Char → Bool
  | ':' :: ' ' :: _ => true
  | _ :: rest => isKeyValue rest
  | [] => false

/-- The lines after the keys of the header. A blank line ends them; without any key the data may
begin at once. -/
def afterKeys (anyKey : Bool) : List (List Char) → List (List Char)
  | [] => []
  | line :: rest =>
    if line.all isBlank then rest
    else if isKeyValue line then afterKeys true rest
    else if anyKey then afterKeys true rest
    else line :: rest

def data (held : List Char) : List Char → List UInt8 × List Char
  | [] => ([], held)
  | c :: rest =>
    if isBlank c then data held rest
    else
      match held with
      | [x, y, z] =>
        match Base64.group? x y z c with
        | some bytes =>
          let (more, rest) := data [] rest
          (bytes ++ more, rest)
        | none => ([], held ++ c :: rest)
      | _ =>
        if (Base64.digit? c).isSome || (held.length ≥ 2 && c == '=') then data (held ++ [c]) rest
        else ([], held ++ c :: rest)

def afterChecksum (text : List Char) : List Char :=
  match text with
  | '=' :: a :: b :: c :: d :: rest =>
    if [a, b, c, d].all fun c => (Base64.digit? c).isSome then rest else text
  | _ => text

def read? (text : List Char) : Option (List UInt8 × List Char) := do
  let opened ← open? (lines text)
  let unquoted ← opened.lines.tail.mapM (unquote? opened.quote)
  let head := opened.lines.head?.getD []
  let body := if head.all isBlank then unquoted else head :: unquoted
  let (bytes, rest) := data [] (['\n'].intercalate (afterKeys false body))
  let footer := (afterChecksum rest).dropWhile isBlank
  let (armor, rest) ← delimiter? "END PGP " footer
  if armor = opened.armor then return (bytes, rest) else none

def wrapWithin : (steps : Nat) → (width : Nat) → List Char → List (List Char)
  | 0, _, text => [text]
  | steps + 1, width, text =>
    if text.length ≤ width then [text]
    else text.take width :: wrapWithin steps width (text.drop width)

def write (armor : Armor) (bytes : List UInt8) : String :=
  let text := Base64.encode bytes
  let body := (wrapWithin text.length 64 text).flatMap (· ++ ['\n'])
  "-----BEGIN PGP " ++ armor.label ++ "-----\n\n" ++ String.ofList body ++
    "-----END PGP " ++ armor.label ++ "-----\n"

end Armor

namespace Packet

def characters (bytes : List UInt8) : List Char :=
  bytes.map fun byte => Char.ofNat byte.toNat

def ofBlock? (bytes : List UInt8) : Option (List Packet) :=
  if (header? bytes).isSome then readAll? bytes
  else (Armor.read? (characters bytes)).bind fun (content, _) => readAll? content

def ofBlocks? (bytes : List UInt8) : Option (List Packet) :=
  if (header? bytes).isSome then readAll? bytes
  else do
    let (content, rest) ← Armor.read? (characters bytes)
    let first ← readAll? content
    if (Armor.open? (Armor.lines rest)).isNone then return first
    let (content, _) ← Armor.read? rest
    let second ← readAll? content
    return first ++ second

end Packet

end Attestor.OpenPgp
