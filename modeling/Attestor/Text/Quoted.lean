import Attestor.Text.Hex
import Attestor.Text.Printable

namespace Attestor.Text

def codePoint (c : Char) : List Char :=
  '\\' :: 'u' :: '\x7b' :: Hex.ofNat c.toNat ++ ['\x7d']

def escaped (c : Char) : List Char :=
  if c.toNat = 0 then ['\\', '0']
  else if c = '\t' then ['\\', 't']
  else if c = '\r' then ['\\', 'r']
  else if c = '\n' then ['\\', 'n']
  else if c = '"' then ['\\', '"']
  else if c = '\\' then ['\\', '\\']
  else if isPrintable c && !isExtending c then [c]
  else codePoint c

def quoted (text : String) : String :=
  String.ofList ('"' :: text.toList.flatMap escaped ++ ['"'])

def quotedList (texts : List String) : String :=
  "[" ++ ", ".intercalate (texts.map quoted) ++ "]"

end Attestor.Text
