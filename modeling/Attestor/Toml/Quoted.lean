import Attestor.Text.Hex
import Attestor.Text.Utf8
import Attestor.Toml.Layout

namespace Attestor.Toml

def scalar? (digits : List Char) : Option Char :=
  (Hex.toNat? digits).bind (Text.charFrom? 0)

def escape? : Char → Option Char
  | 'b' => some '\x08'
  | 'f' => some '\x0c'
  | 'n' => some '\n'
  | 'r' => some '\r'
  | 't' => some '\t'
  | '"' => some '"'
  | '\\' => some '\\'
  | _ => none

def follow (c : Char) (read : Option (List Char × List Char)) : Option (List Char × List Char) :=
  read.map fun (found, rest) => (c :: found, rest)

def basic? : List Char → Option (List Char × List Char)
  | [] => none
  | '"' :: rest => some ([], rest)
  | '\\' :: 'u' :: a :: b :: c :: d :: rest =>
    (scalar? [a, b, c, d]).bind fun e => follow e (basic? rest)
  | '\\' :: 'U' :: a :: b :: c :: d :: e :: f :: g :: h :: rest =>
    (scalar? [a, b, c, d, e, f, g, h]).bind fun e => follow e (basic? rest)
  | '\\' :: c :: rest => (escape? c).bind fun e => follow e (basic? rest)
  | c :: rest => if c ≠ '\\' ∧ isPlain c then follow c (basic? rest) else none

def literal? : List Char → Option (List Char × List Char)
  | [] => none
  | '\'' :: rest => some ([], rest)
  | c :: rest => if isPlain c then follow c (literal? rest) else none

def continuesLine (input : List Char) : Bool :=
  (newline? (skipBlanks input)).isSome

def basicBlock? (trim : Bool) : List Char → Option (List Char × List Char)
  | [] => none
  | '"' :: '"' :: '"' :: '"' :: '"' :: rest => some (['"', '"'], rest)
  | '"' :: '"' :: '"' :: '"' :: rest => some (['"'], rest)
  | '"' :: '"' :: '"' :: rest => some ([], rest)
  | '\\' :: 'u' :: a :: b :: c :: d :: rest =>
    (scalar? [a, b, c, d]).bind fun e => follow e (basicBlock? false rest)
  | '\\' :: 'U' :: a :: b :: c :: d :: e :: f :: g :: h :: rest =>
    (scalar? [a, b, c, d, e, f, g, h]).bind fun e => follow e (basicBlock? false rest)
  | '\\' :: c :: rest =>
    if continuesLine (c :: rest) then basicBlock? true rest
    else (escape? c).bind fun e => follow e (basicBlock? false rest)
  | '\r' :: '\n' :: rest =>
    if trim then basicBlock? true rest else follow '\n' (basicBlock? false rest)
  | c :: rest =>
    if trim && (isBlank c || c == '\n') then basicBlock? true rest
    else if c = '\n' ∨ (c ≠ '\\' ∧ isPlain c) then follow c (basicBlock? false rest)
    else none

def literalBlock? : List Char → Option (List Char × List Char)
  | [] => none
  | '\'' :: '\'' :: '\'' :: '\'' :: '\'' :: rest => some (['\'', '\''], rest)
  | '\'' :: '\'' :: '\'' :: '\'' :: rest => some (['\''], rest)
  | '\'' :: '\'' :: '\'' :: rest => some ([], rest)
  | '\r' :: '\n' :: rest => follow '\n' (literalBlock? rest)
  | c :: rest => if c = '\n' ∨ isPlain c then follow c (literalBlock? rest) else none

def skipFirstLine (input : List Char) : List Char :=
  (newline? input).getD input

def quoted? : List Char → Option (List Char × List Char)
  | '"' :: '"' :: '"' :: rest => basicBlock? false (skipFirstLine rest)
  | '\'' :: '\'' :: '\'' :: rest => literalBlock? (skipFirstLine rest)
  | '"' :: rest => basic? rest
  | '\'' :: rest => literal? rest
  | _ => none

end Attestor.Toml
