import OrgConsole.Text.Property.Extending
import OrgConsole.Text.Property.Unprintable
/-!
# Quoted text in messages

A message quotes a value so that every character of it can be seen: quotes and backslashes are
escaped, and what would not show by itself is written by its number.
-/

namespace OrgConsole.Text

/-- The digits of a number in base sixteen, in lower case. -/
def hexDigits (n : Nat) : List Char :=
  Nat.toDigits 16 n

/-- A character as it stands in a quoted value. -/
def quotedChar (c : Char) : List Char :=
  if c = '"' then ['\\', '"']
  else if c = '\\' then ['\\', '\\']
  else if c = '\t' then ['\\', 't']
  else if c = '\n' then ['\\', 'n']
  else if c = '\r' then ['\\', 'r']
  else if c = '\x00' then ['\\', '0']
  else if 0x20 ≤ c.toNat && c.toNat < 0x7f then [c]
  else if extending.has c || unprintable.has c then ['\\', 'u', '\x7b'] ++ hexDigits c.toNat ++ ['\x7d']
  else [c]

/-- A value in quotes. -/
def quoted (s : String) : String :=
  String.ofList ('"' :: (s.toList.flatMap quotedChar ++ ['"']))

end OrgConsole.Text
