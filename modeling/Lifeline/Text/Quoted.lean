import Lifeline.Text.Hidden

/-! # Texts in quotes

A text quoted in a message stands between double quotes.  A quote, a backslash and the characters
that cannot be seen are escaped, the common ones by a letter and the others by their number in
hexadecimal digits.
-/

namespace Lifeline.Text

def quotedChar (c : Char) : List Char :=
  if c = '"' then ['\\', '"']
  else if c = '\\' then ['\\', '\\']
  else if c = '\n' then ['\\', 'n']
  else if c = '\r' then ['\\', 'r']
  else if c = '\t' then ['\\', 't']
  else if c.toNat = 0 then ['\\', '0']
  else if isHidden c then
    '\\' :: 'u' :: '\x7b' :: Nat.toDigits 16 c.toNat ++ ['\x7d']
  else [c]

def quoted (s : String) : String :=
  String.ofList ('"' :: s.toList.flatMap quotedChar ++ ['"'])

end Lifeline.Text
