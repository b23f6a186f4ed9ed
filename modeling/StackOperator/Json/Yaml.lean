import StackOperator.Json.Write
import StackOperator.Decimal.Literal

/-!
# Values as YAML documents

A value is written as a block YAML document:

* a mapping puts one `key: value` per line, a nested mapping or sequence on
  the lines below its key; a nested mapping is indented by two, a sequence
  stays at its key's indentation, each item after `- `;
* an item that is a mapping or a sequence starts on the line of its `- `;
* empty mappings and sequences are `{}` and `[]`;
* `null`, `true`, `false` and numbers are written as such.

A string is written plain when it cannot be read as anything else. It is
single-quoted when it would read back as a null, a boolean or a number, or
when its characters rule out a plain scalar: a leading indicator, `: ` or
` #` inside, a space or line break at either end. It is double-quoted, with
escapes, when it holds characters that are not printable or a space next to
a line break. A string with a line break is a literal block scalar, unless
its characters rule that out too. Lines are never folded.
-/

namespace StackOperator.Json.Yaml

/-- How a string is written. -/
inductive Style where
  | plain
  | singleQuoted
  | doubleQuoted
  | literal
  deriving DecidableEq, Repr

/-- Whether a text reads back as a null. -/
def readsAsNull (s : String) : Bool := s.isEmpty || ["~", "null", "Null", "NULL"].contains s

/-- Whether a text reads back as a boolean. -/
def readsAsBool (s : String) : Bool := ["true", "True", "TRUE", "false", "False", "FALSE"].contains s

/-- Whether a character is a digit of base 2, 8 or 16. -/
def isRadixDigit (radix : Nat) (c : Char) : Bool :=
  if radix = 16 then c.isDigit || ('a' ≤ c && c ≤ 'f') || ('A' ≤ c && c ≤ 'F')
  else '0' ≤ c && c.toNat < '0'.toNat + radix

/-- Whether characters are an integer in base 16, 8 or 2 after its `0x`,
`0o` or `0b`. -/
def isRadixInteger : List Char → Bool
  | '0' :: 'x' :: ds => !ds.isEmpty && ds.all (isRadixDigit 16)
  | '0' :: 'o' :: ds => !ds.isEmpty && ds.all (isRadixDigit 8)
  | '0' :: 'b' :: ds => !ds.isEmpty && ds.all (isRadixDigit 2)
  | _ => false

/-- Whether a text reads back as a number: an integer in base 16, 8 or 2
with an optional sign, `.inf` or `.nan` in their spellings, or a finite
decimal literal. -/
def readsAsNumber (s : String) : Bool :=
  let cs := s.toList
  let unpositive := match cs with
    | '+' :: rest => rest
    | _ => cs
  let signedTwice := match cs with
    | '+' :: '+' :: _ | '+' :: '-' :: _ => true
    | _ => false
  let radix := match cs with
    | '-' :: rest => isRadixInteger rest
    | _ => isRadixInteger unpositive
  let special := [".inf", ".Inf", ".INF"].contains (String.ofList unpositive) ||
    ["-.inf", "-.Inf", "-.INF", ".nan", ".NaN", ".NAN"].contains s
  let w := Decimal.word (Decimal.unsigned (String.ofList unpositive)).2
  let decimal := !signedTwice && Decimal.isLiteral (String.ofList unpositive) &&
    w != "inf" && w != "infinity" && w != "nan" && (Decimal.value (String.ofList unpositive)).isFinite
  radix || special || decimal

/-- Whether a text reads back as something other than a string. -/
def readsAsOther (s : String) : Bool := readsAsNull s || readsAsBool s || readsAsNumber s

/-- A line break. -/
def isBreak (c : Char) : Bool :=
  c = '\n' || c = '\r' || c.toNat = 0x85 || c.toNat = 0x2028 || c.toNat = 0x2029

/-- A space, a tab or a line break. -/
def isBlank (c : Char) : Bool := c = ' ' || c = '\t' || isBreak c

/-- A character that may stand in a scalar as it is. -/
def isPrintable (c : Char) : Bool :=
  let n := c.toNat
  n = 0x0A || (0x20 ≤ n && n ≤ 0x7E) || (0xA0 ≤ n && n ≤ 0xD7FF) ||
    (0xE000 ≤ n && n ≤ 0xFFFD && n != 0xFEFF)

/-- What the characters of a text rule out. -/
structure Marks where
  indicators : Bool := false
  lineBreaks : Bool := false
  special : Bool := false
  /-- A space or line break at an end. -/
  edgeBlank : Bool := false
  trailingSpace : Bool := false
  breakSpace : Bool := false
  spaceBreak : Bool := false

/-- The indicators that may not start a plain scalar. -/
def leadingIndicators : List Char :=
  ['#', ',', '[', ']', '{', '}', '&', '*', '!', '|', '>', '\x27', '"', '%', '@', '\x60']

/-- Mark the characters of a text one by one. -/
def scan (m : Marks) (first precededByBlank previousSpace previousBreak : Bool) : List Char → Marks
  | [] => m
  | c :: rest =>
    let followedByBlank := match rest with
      | [] => true
      | d :: _ => isBlank d
    let last := rest.isEmpty
    let indicator :=
      if first then leadingIndicators.contains c || ((c = '?' || c = ':' || c = '-') && followedByBlank)
      else (c = ':' && followedByBlank) || (c = '#' && precededByBlank)
    let m := { m with indicators := m.indicators || indicator, special := m.special || !isPrintable c,
                      lineBreaks := m.lineBreaks || isBreak c }
    if c = ' ' then
      scan { m with edgeBlank := m.edgeBlank || first || last, trailingSpace := m.trailingSpace || last,
                    breakSpace := m.breakSpace || previousBreak } false true true false rest
    else if isBreak c then
      scan { m with edgeBlank := m.edgeBlank || first || last, spaceBreak := m.spaceBreak || previousSpace }
        false true false true rest
    else scan m false (isBlank c) false false rest

/-- The marks of a text. -/
def marksOf (s : String) : Marks :=
  let m := scan {} true true false false s.toList
  if s.startsWith "---" || s.startsWith "..." then { m with indicators := true } else m

/-- How a string is written, as a key or as a value. -/
def styleOf (isKey : Bool) (s : String) : Style :=
  let m := marksOf s
  let plainAllowed := !(m.edgeBlank || m.breakSpace || m.spaceBreak || m.special || m.lineBreaks || m.indicators)
  let singleAllowed := !(m.breakSpace || m.spaceBreak || m.special)
  let blockAllowed := !(m.trailingSpace || m.spaceBreak || m.special)
  if s.contains '\n' then
    if isKey || !blockAllowed then .doubleQuoted else .literal
  else if isKey && m.lineBreaks then .doubleQuoted
  else if !readsAsOther s && plainAllowed then .plain
  else if singleAllowed then .singleQuoted
  else .doubleQuoted

/-- The last `width` hexadecimal digits of a number, in upper case. -/
def hexDigits (width n : Nat) : String :=
  String.ofList ((List.range width).reverse.map fun i =>
    "0123456789ABCDEF".toList.getD (n / Nat.pow 16 i % 16) '0')

/-- A character inside double quotes. -/
def escaped (c : Char) : String :=
  match c with
  | '\x00' => "\\0"
  | '\x07' => "\\a"
  | '\x08' => "\\b"
  | '\t' => "\\t"
  | '\n' => "\\n"
  | '\x0b' => "\\v"
  | '\x0c' => "\\f"
  | '\r' => "\\r"
  | '\x1b' => "\\e"
  | '"' => "\\\""
  | '\\' => "\\\\"
  | _ =>
    let n := c.toNat
    if n = 0x85 then "\\N"
    else if n = 0x2028 then "\\L"
    else if n = 0x2029 then "\\P"
    else if isPrintable c && n != 0xFEFF then String.singleton c
    else if n ≤ 0xFF then "\\x" ++ hexDigits 2 n
    else if n ≤ 0xFFFF then "\\u" ++ hexDigits 4 n
    else "\\U" ++ hexDigits 8 n

/-- `n` spaces. -/
def pad (n : Nat) : String := String.ofList (List.replicate n ' ')

/-- A literal block scalar whose lines stand at an indentation. -/
def literalText (indent : Nat) (s : String) : String :=
  let indentHint := match s.toList with
    | c :: _ => if c = ' ' || isBreak c then "2" else ""
    | [] => ""
  let body := if s.endsWith "\n" then (s.dropEnd 1).toString else s
  let chomp := if !s.endsWith "\n" then "-" else if body.endsWith "\n" || body.isEmpty then "+" else ""
  "|" ++ indentHint ++ chomp ++
    String.join ((body.splitOn "\n").map fun line => "\n" ++ (if line.isEmpty then "" else pad indent ++ line))

/-- A string written in its style, a block scalar's lines at an indentation. -/
def stringText (isKey : Bool) (indent : Nat) (s : String) : String :=
  match styleOf isKey s with
  | .plain => s
  | .singleQuoted => "'" ++ "''".intercalate (s.splitOn "'") ++ "'"
  | .doubleQuoted => "\"" ++ String.join (s.toList.map escaped) ++ "\""
  | .literal => literalText indent s

/-- A number as YAML writes it. -/
def numberText : Number → String
  | .int i => toString i
  | .float b =>
    let f := Float.ofBits b
    if f.isNaN then ".nan"
    else if f.isInf then (if f < 0 then "-.inf" else ".inf")
    else Number.write (.float b)

/-- A value that stands on its key's or item's line, block scalars' lines at an indentation. -/
def inlineText (indent : Nat) : Value → String
  | .null => "null"
  | .bool true => "true"
  | .bool false => "false"
  | .num n => numberText n
  | .str s => stringText false indent s
  | .arr _ => "[]"
  | .obj _ => "{}"

/-- Start the first of the lines of a nested node, written two further in, with `- `. -/
def bullet (indent : Nat) : List String → List String
  | [] => []
  | first :: rest => (pad indent ++ "- " ++ (first.drop (indent + 2)).toString) :: rest

mutual

/-- The lines of a mapping entry at an indentation. -/
def entryLines (indent : Nat) (key : String) : Value → List String
  | .arr (item :: items) => (pad indent ++ key ++ ":") :: itemLines indent (item :: items)
  | .obj (member :: members) => (pad indent ++ key ++ ":") :: memberLines (indent + 2) (member :: members)
  | v => [pad indent ++ key ++ ": " ++ inlineText (indent + 2) v]

/-- The lines of one sequence item at an indentation. -/
def itemLine (indent : Nat) : Value → List String
  | .arr (item :: items) => bullet indent (itemLines (indent + 2) (item :: items))
  | .obj (member :: members) => bullet indent (memberLines (indent + 2) (member :: members))
  | v => [pad indent ++ "- " ++ inlineText (indent + 2) v]

/-- The lines of sequence items at an indentation. -/
def itemLines (indent : Nat) : List Value → List String
  | [] => []
  | v :: rest => itemLine indent v ++ itemLines indent rest

/-- The lines of mapping members at an indentation. -/
def memberLines (indent : Nat) : List (String × Value) → List String
  | [] => []
  | (k, v) :: rest => entryLines indent (stringText true indent k) v ++ memberLines indent rest

end

/-- A value as a YAML document, each line ended. -/
def document (v : Value) : String :=
  let lines := match v with
    | .arr (item :: items) => itemLines 0 (item :: items)
    | .obj (member :: members) => memberLines 0 (member :: members)
    | other => [inlineText 2 other]
  String.join (lines.map (· ++ "\n"))

end StackOperator.Json.Yaml
