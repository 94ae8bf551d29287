import Scriptpad.Text.Invisible

/-!
# Quoted texts in messages

A message that quotes a text puts it between double quotes and makes its characters visible: quotes
and backslashes are escaped, the common control characters have a letter, and other characters that
would not be seen are given by their code point.
-/

namespace Scriptpad.Text

/-- A character as it stands between quotes. -/
def quoteChar (c : Char) : Text :=
  if c = '"' then ['\\', '"']
  else if c = '\\' then ['\\', '\\']
  else if c = '\t' then ['\\', 't']
  else if c = '\n' then ['\\', 'n']
  else if c = '\r' then ['\\', 'r']
  else if c = '\x00' then ['\\', '0']
  else if isInvisible c then ['\\', 'u', '\x7b'] ++ Nat.toDigits 16 c.toNat ++ ['\x7d']
  else [c]

/-- A text between double quotes. -/
def quote (t : Text) : Text :=
  '"' :: t.flatMap quoteChar ++ ['"']

end Scriptpad.Text
