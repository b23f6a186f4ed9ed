import StackOperator.Json.Read

/-!
# Skimming JSON text

Some readers want only a few members of an object and pass over the rest.
A member passed over is still read for its syntax, but no more: its numbers
may be out of range, its strings may hold lone surrogate escapes, and its
arrays and objects may nest without limit. `skimValue` reads a value that way
and returns where it ends.

`readRecordText` reads the text of a record whose members of interest are
`known`. An object gives its known members, read in full; its other members
are skimmed, and a known member given twice is refused. An array gives its
items, read in full. Anything else is read in full and given back as it is.
Only blanks may follow.
-/

namespace StackOperator.Json

/-- The rest of a string after its opening quote, for its syntax only: each
escape is one of the simple ones or `\u` with four hexadecimal digits. -/
def skimStringBody : Nat → Cursor → Except ReadError Cursor
  | 0, c => .error (c.fail .eofInString)
  | fuel + 1, c =>
    match c.rest with
    | [] => .error (c.fail .eofInString)
    | '"' :: _ => .ok c.advance
    | '\\' :: _ =>
      let c := c.advance
      match c.rest with
      | [] => .error (c.fail .eofInString)
      | 'u' :: _ =>
        match readHex4 c.advance with
        | .ok (_, c) => skimStringBody fuel c
        | .error e => .error e
      | ch :: _ =>
        if (simpleEscape? ch).isSome then skimStringBody fuel c.advance
        else .error (c.failPeek .invalidEscape)
    | ch :: _ =>
      if ch.toNat < 0x20 then .error (c.failPeek .controlCharacter)
      else skimStringBody fuel c.advance

/-- A string after its opening quote, for its syntax only. -/
def skimString (c : Cursor) : Except ReadError Cursor := skimStringBody (c.rest.length + 1) c

/-- At least one digit. -/
def skimDigits (c : Cursor) : Except ReadError Cursor :=
  match c.peek with
  | some ch => if ch.isDigit then .ok (takeDigits c).2 else .error (c.failPeek .invalidNumber)
  | none => .error (c.failPeek .eofInValue)

/-- A number after its optional minus sign, for its syntax only. -/
def skimNumber (c : Cursor) : Except ReadError Cursor := do
  let c ← match c.peek with
    | some '0' =>
      let c := c.advance
      match c.peek with
      | some ch => if ch.isDigit then throw (c.failPeek .invalidNumber) else pure c
      | none => pure c
    | some ch => if '1' ≤ ch ∧ ch ≤ '9' then pure (takeDigits c).2 else throw (c.failPeek .invalidNumber)
    | none => throw (c.failPeek .eofInValue)
  let c ← if c.peek = some '.' then skimDigits c.advance else pure c
  if c.peek = some 'e' ∨ c.peek = some 'E' then
    let c := c.advance
    let c := if c.peek = some '+' ∨ c.peek = some '-' then c.advance else c
    skimDigits c
  else pure c

mutual

/-- One value after blanks, for its syntax only. -/
def skimValue : Nat → Cursor → Except ReadError Cursor
  | 0, c => .error (c.fail .eofInValue)
  | fuel + 1, c =>
    let c := c.skipBlanks
    match c.peek with
    | none => .error (c.failPeek .eofInValue)
    | some 'n' => readIdent c.advance "ull".toList
    | some 't' => readIdent c.advance "rue".toList
    | some 'f' => readIdent c.advance "alse".toList
    | some '-' => skimNumber c.advance
    | some '"' => skimString c.advance
    | some '[' => skimItems fuel c.advance true
    | some '{' => skimMembers fuel c.advance true
    | some ch => if ch.isDigit then skimNumber c else .error (c.failPeek .expectedValue)

/-- The items of an array after its opening bracket, for their syntax only. -/
def skimItems : Nat → Cursor → Bool → Except ReadError Cursor
  | 0, c, _ => .error (c.fail .eofInList)
  | fuel + 1, c, first =>
    let c := c.skipBlanks
    match c.peek with
    | some ']' => .ok c.advance
    | none => .error (c.failPeek .eofInList)
    | some ch =>
      let next : Except ReadError Cursor :=
        if ch = ',' ∧ !first then .ok c.advance.skipBlanks
        else if first then .ok c
        else .error (c.failPeek .expectedListCommaOrEnd)
      match next with
      | .error e => .error e
      | .ok c =>
        match c.peek with
        | some ']' => .error (c.failPeek .trailingComma)
        | none => .error (c.failPeek .eofInValue)
        | some _ =>
          match skimValue fuel c with
          | .ok c => skimItems fuel c false
          | .error e => .error e

/-- The members of an object after its opening brace, for their syntax only. -/
def skimMembers : Nat → Cursor → Bool → Except ReadError Cursor
  | 0, c, _ => .error (c.fail .eofInObject)
  | fuel + 1, c, first =>
    let c := c.skipBlanks
    match c.peek with
    | some '}' => .ok c.advance
    | none => .error (c.failPeek .eofInObject)
    | some ch =>
      let next : Except ReadError Cursor :=
        if ch = ',' ∧ !first then .ok c.advance.skipBlanks
        else if first then .ok c
        else .error (c.failPeek .expectedObjectCommaOrEnd)
      match next with
      | .error e => .error e
      | .ok c =>
        match c.peek with
        | some '"' =>
          match skimString c.advance with
          | .error e => .error e
          | .ok c =>
            let c := c.skipBlanks
            match c.peek with
            | some ':' =>
              match skimValue fuel c.advance with
              | .ok c => skimMembers fuel c false
              | .error e => .error e
            | some _ => .error (c.failPeek .expectedColon)
            | none => .error (c.failPeek .eofInObject)
        | some '}' => .error (c.failPeek .trailingComma)
        | some _ => .error (c.failPeek .keyMustBeString)
        | none => .error (c.failPeek .eofInValue)

end

/-- The text of a record, as far as its reader looks at it. -/
inductive RecordText where
  /-- An object's known members. -/
  | members (fs : Fields)
  /-- An array's items. -/
  | items (vs : List Value)
  /-- Any other value. -/
  | other (v : Value)

/-- The message for a known member given twice. -/
def duplicateField (key : String) : String := s!"duplicate field `{key}`"

/-- The members of an object after its opening brace: known ones read in
full (at most `depth` deep) and refused when given twice, others skimmed. -/
def readKnownMembers (known : List String) (depth : Nat) :
    Nat → Cursor → Bool → Fields → Except String (Fields × Cursor)
  | 0, c, _, _ => .error (c.fail .eofInObject).message
  | fuel + 1, c, first, acc =>
    let c := c.skipBlanks
    let fault (e : ReadError) : Except String (Fields × Cursor) := .error e.message
    match c.peek with
    | some '}' => .ok (acc, c.advance)
    | none => fault (c.failPeek .eofInObject)
    | some ch =>
      let next : Except ReadError Cursor :=
        if ch = ',' ∧ !first then .ok c.advance.skipBlanks
        else if first then .ok c
        else .error (c.failPeek .expectedObjectCommaOrEnd)
      match next with
      | .error e => fault e
      | .ok c =>
        match c.peek with
        | some '"' =>
          match readString c.advance with
          | .error e => fault e
          | .ok (key, c) =>
            let c := c.skipBlanks
            match c.peek with
            | some ':' =>
              if known.contains key then
                if (Fields.get? acc key).isSome then .error (duplicateField key)
                else match readValue fuel depth c.advance with
                  | .ok (v, c) => readKnownMembers known depth fuel c false (Fields.put acc key v)
                  | .error e => fault e
              else match skimValue fuel c.advance with
                | .ok c => readKnownMembers known depth fuel c false acc
                | .error e => fault e
            | some _ => fault (c.failPeek .expectedColon)
            | none => fault (c.failPeek .eofInObject)
        | some '}' => fault (c.failPeek .trailingComma)
        | some _ => fault (c.failPeek .keyMustBeString)
        | none => fault (c.failPeek .eofInValue)

/-- Read the text of a record whose members of interest are `known`. -/
def readRecordText (known : List String) (text : String) : Except String RecordText := do
  let fuel := 2 * text.length + 2
  let c : Cursor := ({ rest := text.toList } : Cursor).skipBlanks
  let (record, c) ← match c.peek with
    | some '{' => (readKnownMembers known 127 fuel c.advance true []).map fun (fs, c) => (RecordText.members fs, c)
    | some '[' =>
      match readItems fuel 127 c.advance true [] with
      | .ok (vs, c) => .ok (RecordText.items vs, c)
      | .error e => .error e.message
    | _ =>
      match readValue fuel 128 c with
      | .ok (v, c) => .ok (RecordText.other v, c)
      | .error e => .error e.message
  let c := c.skipBlanks
  match c.peek with
  | none => pure record
  | some _ => throw (c.failPeek .trailingCharacters).message

end StackOperator.Json
