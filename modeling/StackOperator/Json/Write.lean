import StackOperator.Json.Value
import StackOperator.Decimal.Shortest

/-!
# Writing JSON text

`Value.write` gives the compact text of a value: no blanks, object members in
their stored (sorted) order. In a string, the quote, the backslash and the
control characters below U+0020 are escaped (`\b`, `\f`, `\n`, `\r`, `\t`, or
`\u00XX` in lower-case hexadecimal); every other character is written as it is.
A double is written with the fewest digits that read back (`Decimal.jsonText`).
-/

namespace StackOperator.Json

/-- The escaped form of one character inside a string literal. -/
def escapeChar (c : Char) : List Char :=
  if c = '"' then ['\\', '"']
  else if c = '\\' then ['\\', '\\']
  else if c = '\n' then ['\\', 'n']
  else if c = '\r' then ['\\', 'r']
  else if c = '\t' then ['\\', 't']
  else if c = '\x08' then ['\\', 'b']
  else if c = '\x0c' then ['\\', 'f']
  else if c.toNat < 0x20 then
    let hex := "0123456789abcdef".toList
    ['\\', 'u', '0', '0', hex.getD (c.toNat / 16) '0', hex.getD (c.toNat % 16) '0']
  else [c]

/-- A string literal with its quotes. -/
def quote (s : String) : String :=
  String.ofList ('"' :: (s.toList.flatMap escapeChar ++ ['"']))

/-- The text of a number. -/
def Number.write : Number → String
  | .int i => toString i
  | .float b => Decimal.jsonText (Float.ofBits b)

mutual

/-- Append the compact text of a value to `acc`. -/
def Value.writeTo (acc : String) : Value → String
  | .null => acc ++ "null"
  | .bool true => acc ++ "true"
  | .bool false => acc ++ "false"
  | .num n => acc ++ n.write
  | .str s => acc ++ quote s
  | .arr items => writeItems (acc.push '[') true items |>.push ']'
  | .obj fields => writeMembers (acc.push '{') true fields |>.push '}'

/-- Append array items separated by commas. -/
def writeItems (acc : String) (first : Bool) : List Value → String
  | [] => acc
  | v :: rest => writeItems (Value.writeTo (if first then acc else acc.push ',') v) false rest

/-- Append object members separated by commas. -/
def writeMembers (acc : String) (first : Bool) : List (String × Value) → String
  | [] => acc
  | (k, v) :: rest =>
    writeMembers (Value.writeTo (((if first then acc else acc.push ',') ++ quote k).push ':') v) false rest

end

/-- The compact text of a value. -/
def Value.write (v : Value) : String := Value.writeTo "" v

end StackOperator.Json
