import StaticMulticast.Text.Unprintable

/-!
# Quoted text

A text between double quotes, on one line and without surprises: the quote and the backslash are
escaped, four controls have an escape of one letter or digit, and any other character that does not
show by itself is written as its code point.
-/

namespace StaticMulticast.Text.Quoted

/-- The code point of a character in lower-case hexadecimal digits. -/
def codePoint (character : Char) : List Char :=
  Nat.toDigits 16 character.toNat

/-- A character as it stands between the quotes. -/
def escape (character : Char) : List Char :=
  if character = '"' then ['\\', '"']
  else if character = '\\' then ['\\', '\\']
  else if character = '\t' then ['\\', 't']
  else if character = '\n' then ['\\', 'n']
  else if character = '\r' then ['\\', 'r']
  else if character.toNat = 0 then ['\\', '0']
  else if isUnprintable character then ['\\', 'u', '\x7b'] ++ codePoint character ++ ['\x7d']
  else [character]

/-- A text between double quotes. -/
def quote (text : String) : String :=
  String.ofList ('"' :: text.toList.flatMap escape ++ ['"'])

end StaticMulticast.Text.Quoted
