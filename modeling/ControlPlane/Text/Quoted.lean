import ControlPlane.Text.PrintTable

/-!
# Quoted text

`quoted` writes a text between double quotes so that it can be read off a log line: quotes,
backslashes and the usual controls by a letter, and every other character without a glyph of its own
by its code point in braces.
-/

namespace ControlPlane.Text

/-- The lower-case hexadecimal digits of a code point. -/
def hexDigits (n : Nat) : List Char :=
  Nat.toDigits 16 n

/-- A character as it stands between the quotes. -/
def quotedChar (c : Char) : List Char :=
  if c = '\x00' then ['\\', '0']
  else if c = '\t' then ['\\', 't']
  else if c = '\r' then ['\\', 'r']
  else if c = '\n' then ['\\', 'n']
  else if c = '"' then ['\\', '"']
  else if c = '\\' then ['\\', '\\']
  else if attaching.contains c || fillers.contains c || unprintable.contains c then
    ['\\', 'u', '{'] ++ hexDigits c.toNat ++ ['}']
  else [c]

/-- The text between double quotes. -/
def quoted (s : String) : String :=
  String.ofList ('"' :: s.toList.flatMap quotedChar ++ ['"'])

end ControlPlane.Text
