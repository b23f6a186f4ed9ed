import StackOperator.Text.GraphemeExtend

/-!
# Quoted text for messages

`quoted` writes a text between double quotes the way messages show a value:
the backslash and the double quote are escaped with a backslash; tab, line
feed, carriage return and NUL become `\t`, `\n`, `\r`, `\0`; a character that
does not print on its own (`isPrintable`) or that extends the grapheme before
it (`extendsGrapheme`) becomes `\u{hex}` with the fewest lower-case digits.
Everything else is written as it is.
-/

namespace StackOperator.Text

/-- Characters written as `\u{…}`: those that do not print on their own
and those that would join the character before them. -/
def needsUnicodeEscape (c : Char) : Bool := !isPrintable c || extendsGrapheme c

/-- Lower-case hexadecimal digits of a number, at least one. -/
def hexDigits (n : Nat) : List Char := Nat.toDigits 16 n

/-- The escaped form of one character between double quotes. -/
def quotedChar (c : Char) : List Char :=
  if c = '\\' then ['\\', '\\']
  else if c = '"' then ['\\', '"']
  else if c = '\t' then ['\\', 't']
  else if c = '\n' then ['\\', 'n']
  else if c = '\r' then ['\\', 'r']
  else if c = '\x00' then ['\\', '0']
  else if needsUnicodeEscape c then ['\\', 'u', '\x7b'] ++ hexDigits c.toNat ++ ['\x7d']
  else [c]

/-- A text between double quotes with its special characters escaped. -/
def quoted (s : String) : String :=
  String.ofList ('"' :: s.toList.flatMap quotedChar ++ ['"'])

end StackOperator.Text
