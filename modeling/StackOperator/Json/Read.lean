import StackOperator.Json.Value

/-!
# Reading JSON text

`Json.read` turns text into a `Value`, or into a `ReadError` that names what
went wrong and where: the line (from 1) and the column, counted in bytes of
UTF-8 from the start of the line. Where the position points follows one rule
per kind of fault: a fault at a character points just past its first byte
(`Cursor.failPeek`), as the reader takes text byte by byte and stops at the
first byte that rules it out; one found after consuming characters points at
the end of what was consumed (`Cursor.fail`).

The grammar is RFC 8259 with these decisions:
* only space, tab, line feed and carriage return are blanks;
* an integer literal becomes an integer when it fits in 64 bits (a negative
  one in the signed range), otherwise a double; `-0` is a double;
* a literal with a fraction or an exponent becomes a double by scaling the
  first 19 or 20 significant digits (as many as fit in 64 bits; the rest are
  dropped) with one multiplication or division by a power of ten; a result
  out of range is refused;
* nesting deeper than 127 arrays and objects is refused;
* in an object, a later member with the same key replaces the earlier one.
-/

namespace StackOperator.Json

/-- What kind of fault stopped the reader. -/
inductive ReadFault where
  | eofInValue
  | eofInList
  | eofInObject
  | eofInString
  | expectedColon
  | expectedListCommaOrEnd
  | expectedObjectCommaOrEnd
  | expectedIdent
  | expectedValue
  | invalidEscape
  | invalidNumber
  | numberOutOfRange
  | controlCharacter
  | keyMustBeString
  | loneLeadingSurrogate
  | trailingComma
  | trailingCharacters
  | unexpectedEndOfHexEscape
  | recursionLimit
  deriving DecidableEq, Inhabited

/-- The words for each fault. -/
def ReadFault.text : ReadFault → String
  | .eofInValue => "EOF while parsing a value"
  | .eofInList => "EOF while parsing a list"
  | .eofInObject => "EOF while parsing an object"
  | .eofInString => "EOF while parsing a string"
  | .expectedColon => "expected `:`"
  | .expectedListCommaOrEnd => "expected `,` or `]`"
  | .expectedObjectCommaOrEnd => "expected `,` or `\x7d`"
  | .expectedIdent => "expected ident"
  | .expectedValue => "expected value"
  | .invalidEscape => "invalid escape"
  | .invalidNumber => "invalid number"
  | .numberOutOfRange => "number out of range"
  | .controlCharacter => "control character (\\u0000-\\u001F) found while parsing a string"
  | .keyMustBeString => "key must be a string"
  | .loneLeadingSurrogate => "lone leading surrogate in hex escape"
  | .trailingComma => "trailing comma"
  | .trailingCharacters => "trailing characters"
  | .unexpectedEndOfHexEscape => "unexpected end of hex escape"
  | .recursionLimit => "recursion limit exceeded"

/-- A fault with the place where it was found. -/
structure ReadError where
  fault : ReadFault
  line : Nat
  column : Nat
  deriving DecidableEq, Inhabited

/-- The message: the fault, then its line and column. -/
def ReadError.message (e : ReadError) : String :=
  s!"{e.fault.text} at line {e.line} column {e.column}"

/-- The unread rest of the text with the position reached. -/
structure Cursor where
  rest : List Char
  line : Nat := 1
  column : Nat := 0

namespace Cursor

/-- Step over one character. -/
def advance (c : Cursor) : Cursor :=
  match c.rest with
  | [] => c
  | ch :: tl =>
    if ch = '\n' then { rest := tl, line := c.line + 1, column := 0 }
    else { rest := tl, line := c.line, column := c.column + ch.utf8Size }

/-- Step over `n` bytes; a character cut in two counts its bytes up to the cut. -/
def advanceBytes (c : Cursor) (n : Nat) : Cursor :=
  go c.rest c.line c.column n
where
  go : List Char → Nat → Nat → Nat → Cursor
    | rest, line, col, 0 => { rest, line, column := col }
    | [], line, col, _ => { rest := [], line, column := col }
    | ch :: tl, line, col, n + 1 =>
      if ch = '\n' then go tl (line + 1) 0 n
      else if ch.utf8Size ≤ n + 1 then go tl line (col + ch.utf8Size) (n + 1 - ch.utf8Size)
      else { rest := tl, line, column := col + n + 1 }

/-- A fault at the end of what was consumed. -/
def fail (c : Cursor) (f : ReadFault) : ReadError := ⟨f, c.line, c.column⟩

/-- A fault at the next character, just past its first byte (or at the end, if there is none). -/
def failPeek (c : Cursor) (f : ReadFault) : ReadError :=
  match c.rest with
  | [] => ⟨f, c.line, c.column⟩
  | '\n' :: _ => ⟨f, c.line + 1, 0⟩
  | _ :: _ => ⟨f, c.line, c.column + 1⟩

/-- Skip blanks. -/
def skipBlanks (c : Cursor) : Cursor :=
  let blanks := c.rest.takeWhile fun ch => ch = ' ' || ch = '\n' || ch = '\t' || ch = '\r'
  blanks.foldl (fun cur _ => cur.advance) c

/-- The next character, if any. -/
def peek (c : Cursor) : Option Char := c.rest.head?

end Cursor

/-- Result of one reading step. -/
abbrev Step (α : Type) := Except ReadError (α × Cursor)

/-- The value of a hexadecimal digit. -/
def hexDigit? (ch : Char) : Option Nat :=
  if '0' ≤ ch ∧ ch ≤ '9' then some (ch.toNat - '0'.toNat)
  else if 'a' ≤ ch ∧ ch ≤ 'f' then some (ch.toNat - 'a'.toNat + 10)
  else if 'A' ≤ ch ∧ ch ≤ 'F' then some (ch.toNat - 'A'.toNat + 10)
  else none

/-- The sum of the bytes of some characters. -/
def byteCount (cs : List Char) : Nat := cs.foldl (fun n ch => n + ch.utf8Size) 0

/-- Four hexadecimal digits after a `\u`. Fewer than four bytes left is the end of the text. -/
def readHex4 (c : Cursor) : Step Nat :=
  if byteCount (c.rest.take 4) < 4 then
    .error ((c.advanceBytes (byteCount c.rest)).fail .eofInString)
  else
    let after := c.advanceBytes 4
    match c.rest with
    | a :: b :: d :: e :: _ =>
      match hexDigit? a, hexDigit? b, hexDigit? d, hexDigit? e with
      | some w, some x, some y, some z => .ok (((w * 16 + x) * 16 + y) * 16 + z, after)
      | _, _, _, _ => .error (after.fail .invalidEscape)
    | _ => .error (after.fail .invalidEscape)

/-- The escape after a backslash whose first character is not `u`. -/
def simpleEscape? : Char → Option Char
  | '"' => some '"'
  | '\\' => some '\\'
  | '/' => some '/'
  | 'b' => some '\x08'
  | 'f' => some '\x0c'
  | 'n' => some '\n'
  | 'r' => some '\r'
  | 't' => some '\t'
  | _ => none

/-- The text of a `\u` escape (the backslash and `u` already read), with a
surrogate pair joined into one character. -/
def readUnicodeEscape (c : Cursor) : Except ReadError (Char × Cursor) := do
  let (n, c) ← readHex4 c
  if 0xDC00 ≤ n ∧ n ≤ 0xDFFF then throw (c.fail .loneLeadingSurrogate)
  if n < 0xD800 ∨ 0xDBFF < n then return (Char.ofNat n, c)
  match c.peek with
  | none => throw (c.fail .eofInString)
  | some '\\' =>
    let c := c.advance
    match c.peek with
    | none => throw (c.fail .eofInString)
    | some 'u' =>
      let (n2, c) ← readHex4 c.advance
      if n2 < 0xDC00 ∨ 0xDFFF < n2 then throw (c.fail .loneLeadingSurrogate)
      return (Char.ofNat ((n - 0xD800) * 0x400 + (n2 - 0xDC00) + 0x10000), c)
    | some _ => throw ((c.advanceBytes 1).fail .unexpectedEndOfHexEscape)
  | some _ => throw ((c.advanceBytes 1).fail .unexpectedEndOfHexEscape)

/-- The rest of a string after its opening quote. -/
def readStringBody : Nat → Cursor → List Char → Step String
  | 0, c, _ => .error (c.fail .eofInString)
  | fuel + 1, c, acc =>
    match c.rest with
    | [] => .error (c.fail .eofInString)
    | '"' :: _ => .ok (String.ofList acc.reverse, c.advance)
    | '\\' :: _ =>
      let c := c.advance
      match c.rest with
      | [] => .error (c.fail .eofInString)
      | 'u' :: _ =>
        match readUnicodeEscape c.advance with
        | .ok (ch, c) => readStringBody fuel c (ch :: acc)
        | .error e => .error e
      | ch :: _ =>
        match simpleEscape? ch with
        | some out => readStringBody fuel c.advance (out :: acc)
        | none => .error (c.failPeek .invalidEscape)
    | ch :: _ =>
      if ch.toNat < 0x20 then .error (c.failPeek .controlCharacter)
      else readStringBody fuel c.advance (ch :: acc)

/-- A string after its opening quote, with fuel enough for its length. -/
def readString (c : Cursor) : Step String := readStringBody (c.rest.length + 1) c []

/-- Would `acc * 10 + d` pass the largest 64-bit unsigned integer? -/
def overflows64 (acc d : Nat) : Bool :=
  acc ≥ 18446744073709551615 / 10 ∧ (acc > 18446744073709551615 / 10 ∨ d > 18446744073709551615 % 10)

/-- The double nearest to a power of ten. -/
def powerOfTen (k : Nat) : Float := Float.ofScientific 1 false k

/-- Scale a 64-bit significand by a power of ten with one rounding step per
factor of at most 10^308, refusing a result out of range. -/
def scaleByTen (c : Cursor) (positive : Bool) (significand : Nat) (exponent : Int) : Except ReadError Float :=
  let rec go : Nat → Float → Int → Except ReadError Float
    | 0, f, _ => .ok f
    | fuel + 1, f, e =>
      if e.natAbs ≤ 308 then
        if e ≥ 0 then
          let g := f * powerOfTen e.natAbs
          if g.isInf then .error (c.fail .numberOutOfRange) else .ok g
        else .ok (f / powerOfTen e.natAbs)
      else if f == 0 then .ok f
      else if e ≥ 0 then .error (c.fail .numberOutOfRange)
      else go fuel (f / powerOfTen 308) (e + 308)
  match go (exponent.natAbs / 308 + 2) (Float.ofNat significand) exponent with
  | .ok f => .ok (if positive then f else -f)
  | .error e => .error e

/-- Digits, as many as the predicate allows; returns them and the cursor after them. -/
def takeDigits (c : Cursor) : List Char × Cursor :=
  let ds := c.rest.takeWhile Char.isDigit
  (ds, ds.foldl (fun cur _ => cur.advance) c)

/-- The digits of a decimal fraction and an exponent after a significand, as a double. -/
def readFractionAndExponent (c : Cursor) (positive : Bool) (significand : Nat) (exp0 : Int) :
    Except ReadError (Float × Cursor) := do
  -- fraction
  let (significand, exponent, c) ←
    if c.peek = some '.' then
      let c := c.advance
      let (ds, c') := takeDigits c
      if ds.isEmpty then
        match c.peek with
        | some _ => throw (c.failPeek .invalidNumber)
        | none => throw (c.failPeek .eofInValue)
      -- keep digits while the significand fits in 64 bits
      let rec keep : List Char → Nat → Int → Nat × Int
        | [], s, e => (s, e)
        | d :: ds, s, e =>
          let v := d.toNat - '0'.toNat
          if overflows64 s v then (s, e) else keep ds (s * 10 + v) (e - 1)
      let (s, e) := keep ds significand exp0
      pure (s, e, c')
    else pure (significand, exp0, c)
  -- exponent
  if c.peek = some 'e' ∨ c.peek = some 'E' then
    let c := c.advance
    let (positiveExp, c) :=
      if c.peek = some '+' then (true, c.advance)
      else if c.peek = some '-' then (false, c.advance) else (true, c)
    match c.peek with
    | none => throw (c.fail .eofInValue)
    | some ch =>
      if !ch.isDigit then throw (c.failPeek .invalidNumber)
      let (ds, c') := takeDigits c
      let value := ds.foldl (fun n d => n * 10 + (d.toNat - '0'.toNat)) 0
      if value > 2147483647 then
        if significand ≠ 0 ∧ positiveExp then
          -- the position is past the digit that first overflowed
          let rec overflowAt : List Char → Nat → Nat → Nat
            | [], _, k => k
            | d :: ds, n, k =>
              let n' := n * 10 + (d.toNat - '0'.toNat)
              if n' > 2147483647 then k + 1 else overflowAt ds n' (k + 1)
          let k := overflowAt ds 0 0
          throw ((c.advanceBytes k).fail .numberOutOfRange)
        pure ((if positive then 0.0 else -0.0), c')
      else
        let e := if positiveExp then exponent + value else exponent - value
        let e := max (-2147483648) (min 2147483647 e)
        let f ← scaleByTen c' positive significand e
        pure (f, c')
  else
    let f ← scaleByTen c positive significand exponent
    pure (f, c)

/-- A number after its optional minus sign. -/
def readNumber (c : Cursor) (positive : Bool) : Except ReadError (Number × Cursor) := do
  match c.peek with
  | none => throw (c.fail .eofInValue)
  | some '0' =>
    let c := c.advance
    match c.peek with
    | some ch =>
      if ch.isDigit then throw (c.failPeek .invalidNumber)
    | none => pure ()
    finish c 0 0
  | some ch =>
    if '1' ≤ ch ∧ ch ≤ '9' then
      let (ds, c') := takeDigits c
      -- the integer part as far as it fits in 64 bits
      let rec fit : List Char → Nat → Nat → Nat × Nat
        | [], s, k => (s, k)
        | d :: ds, s, k =>
          let v := d.toNat - '0'.toNat
          if overflows64 s v then (s, k) else fit ds (s * 10 + v) (k + 1)
      let (s, k) := fit ds 0 0
      if k < ds.length then
        -- the dropped integer digits raise the exponent
        finishFloat c' s (ds.length - k)
      else finish c' s 0
    else throw (c.failPeek .invalidNumber)
where
  finish (c : Cursor) (significand : Nat) (exp0 : Int) : Step Number :=
    if c.peek = some '.' ∨ c.peek = some 'e' ∨ c.peek = some 'E' then
      finishFloat c significand exp0
    else if positive then .ok (.int significand, c)
    else if significand = 0 ∨ significand > 9223372036854775808 then
      .ok (Number.ofFloat (-(Float.ofNat significand)), c)
    else .ok (.int (-(significand : Int)), c)
  finishFloat (c : Cursor) (significand : Nat) (exp0 : Int) : Step Number :=
    match readFractionAndExponent c positive significand exp0 with
    | .ok (f, c) => .ok (Number.ofFloat f, c)
    | .error e => .error e

/-- The rest of a keyword after its first letter. -/
def readIdent (c : Cursor) : List Char → Except ReadError Cursor
  | [] => .ok c
  | want :: more =>
    match c.peek with
    | none => .error (c.fail .eofInValue)
    | some ch => if ch = want then readIdent c.advance more else .error (c.failPeek .expectedIdent)

mutual

/-- One value, after blanks. `depth` counts the arrays and objects still allowed. -/
def readValue : Nat → Nat → Cursor → Step Value
  | 0, _, c => .error (c.fail .eofInValue)
  | fuel + 1, depth, c =>
    let c := c.skipBlanks
    match c.peek with
    | none => .error (c.failPeek .eofInValue)
    | some 'n' => (readIdent c.advance "ull".toList).map fun c => (.null, c)
    | some 't' => (readIdent c.advance "rue".toList).map fun c => (.bool true, c)
    | some 'f' => (readIdent c.advance "alse".toList).map fun c => (.bool false, c)
    | some '-' => (readNumber c.advance false).map fun (n, c) => (.num n, c)
    | some '"' => (readString c.advance).map fun (s, c) => (.str s, c)
    | some '[' =>
      if depth ≤ 1 then .error (c.failPeek .recursionLimit)
      else match readItems fuel (depth - 1) c.advance true [] with
        | .ok (items, c) => .ok (.arr items, c)
        | .error e => .error e
    | some '{' =>
      if depth ≤ 1 then .error (c.failPeek .recursionLimit)
      else match readMembers fuel (depth - 1) c.advance true [] with
        | .ok (fs, c) => .ok (.obj fs, c)
        | .error e => .error e
    | some ch =>
      if ch.isDigit then (readNumber c true).map fun (n, c) => (.num n, c)
      else .error (c.failPeek .expectedValue)

/-- The items of an array after its opening bracket. -/
def readItems : Nat → Nat → Cursor → Bool → List Value → Step (List Value)
  | 0, _, c, _, _ => .error (c.fail .eofInList)
  | fuel + 1, depth, c, first, acc =>
    let c := c.skipBlanks
    match c.peek with
    | some ']' => .ok (acc.reverse, c.advance)
    | none => .error (c.failPeek .eofInList)
    | some ch =>
      let next : Except ReadError Cursor :=
        if ch = ',' ∧ !first then .ok c.advance.skipBlanks
        else if first then .ok c
        else .error (c.failPeek .expectedListCommaOrEnd)
      match next with
      | .error e => .error e
      | .ok c =>
        match c.peek with
        | some ']' => .error (c.failPeek .trailingComma)
        | none => .error (c.failPeek .eofInValue)
        | some _ =>
          match readValue fuel depth c with
          | .ok (v, c) => readItems fuel depth c false (v :: acc)
          | .error e => .error e

/-- The members of an object after its opening brace. -/
def readMembers : Nat → Nat → Cursor → Bool → Fields → Step Fields
  | 0, _, c, _, _ => .error (c.fail .eofInObject)
  | fuel + 1, depth, c, first, acc =>
    let c := c.skipBlanks
    match c.peek with
    | some '}' => .ok (acc, c.advance)
    | none => .error (c.failPeek .eofInObject)
    | some ch =>
      let next : Except ReadError Cursor :=
        if ch = ',' ∧ !first then .ok c.advance.skipBlanks
        else if first then .ok c
        else .error (c.failPeek .expectedObjectCommaOrEnd)
      match next with
      | .error e => .error e
      | .ok c =>
        match c.peek with
        | some '"' =>
          match readString c.advance with
          | .error e => .error e
          | .ok (key, c) =>
            let c := c.skipBlanks
            match c.peek with
            | some ':' =>
              match readValue fuel depth c.advance with
              | .ok (v, c) => readMembers fuel depth c false (Fields.put acc key v)
              | .error e => .error e
            | some _ => .error (c.failPeek .expectedColon)
            | none => .error (c.failPeek .eofInObject)
        | some '}' => .error (c.failPeek .trailingComma)
        | some _ => .error (c.failPeek .keyMustBeString)
        | none => .error (c.failPeek .eofInValue)

end

/-- Read a whole text as one value; anything but blanks after it is a fault. -/
def read (text : String) : Except ReadError Value :=
  let c : Cursor := { rest := text.toList }
  match readValue (2 * text.length + 2) 128 c with
  | .error e => .error e
  | .ok (v, c) =>
    let c := c.skipBlanks
    match c.peek with
    | none => .ok v
    | some _ => .error (c.failPeek .trailingCharacters)

end StackOperator.Json
