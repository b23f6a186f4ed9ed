import StackOperator.Text.Blank
import StackOperator.Json.Decode

/-!
# Instants and their RFC 3339 text

An `Instant` is a whole second since 1970-01-01T00:00:00Z and the
nanoseconds into it. A leap second is kept as the second before it with
nanoseconds from one billion on, so `23:59:60.5` is second `23:59:59` and
1.5 billion nanoseconds; instants are ordered by second, then nanosecond.

`Instant.parse` reads a relaxed RFC 3339 text: blanks may stand before any
number and around the `-` and `:` separators; the year has up to four digits,
or any number after a sign; month, day, hour, minute and second have one or
two digits; the date and the time are parted by `T`, `t` or a blank; a
fraction after the seconds has at least one digit, of which the first nine
count; the offset, after optional blanks, is `Z`, `z`, `UTC` in any case, or
a sign (`+`, `-` or the minus sign U+2212) with two digits of hours, colons
or blanks, and two digits of minutes; only blanks may follow. Values out of
their ranges, dates that do not exist, offsets of a day or more, and
instants beyond the years -262143 to 262142 are out of range.

`Instant.render` writes the UTC form with `Z`, the second of a leap second
as `60`, and a fraction of three, six or nine digits, the fewest that hold
the nanoseconds, or none when they are zero.

Main statement: `le_later`, an instant comes no later than one after it.
-/

namespace StackOperator

/-- A second since the start of 1970 in UTC and the nanoseconds into it; from
one billion nanoseconds on, the second is a leap second after it. -/
structure Instant where
  seconds : Int
  frac : Nat
  deriving DecidableEq, Inhabited, Repr

namespace Instant

/-- Nanoseconds in a second. -/
def nanosPerSecond : Nat := 1000000000

instance : LE Instant := ⟨fun a b => a.seconds < b.seconds ∨ (a.seconds = b.seconds ∧ a.frac ≤ b.frac)⟩
instance : LT Instant := ⟨fun a b => a.seconds < b.seconds ∨ (a.seconds = b.seconds ∧ a.frac < b.frac)⟩
instance (a b : Instant) : Decidable (a ≤ b) :=
  inferInstanceAs (Decidable (a.seconds < b.seconds ∨ (a.seconds = b.seconds ∧ a.frac ≤ b.frac)))
instance (a b : Instant) : Decidable (a < b) :=
  inferInstanceAs (Decidable (a.seconds < b.seconds ∨ (a.seconds = b.seconds ∧ a.frac < b.frac)))

/-- The instant a count of nanoseconds after 1970-01-01T00:00:00Z. -/
def ofNanos (n : Int) : Instant := ⟨n / nanosPerSecond, (n % nanosPerSecond).toNat⟩

/-- The later of two instants. -/
def max (a b : Instant) : Instant := if a ≤ b then b else a

/-- The instant `ns` nanoseconds after `t`, out of any leap second. -/
def later (t : Instant) (ns : Nat) : Instant :=
  ⟨t.seconds + ((t.frac + ns) / nanosPerSecond : Nat), (t.frac + ns) % nanosPerSecond⟩

theorem le_later (t : Instant) (ns : Nat) : t ≤ t.later ns := by
  show t.seconds < _ ∨ (t.seconds = _ ∧ t.frac ≤ _)
  simp only [later, nanosPerSecond]
  omega

/-- The second of the day, from 0 to 86399. -/
def secondOfDay (t : Instant) : Int := t.seconds % 86400

/-- Nanoseconds from `b` to `a`, negative when `a` is earlier. A leap second
counts as a second of its own only against a time of day on its other side. -/
def since (a b : Instant) : Int :=
  let adjust : Int :=
    if a.secondOfDay > b.secondOfDay then (if b.frac ≥ nanosPerSecond then 1 else 0)
    else if a.secondOfDay < b.secondOfDay then (if a.frac ≥ nanosPerSecond then -1 else 0)
    else 0
  (a.seconds - b.seconds + adjust) * nanosPerSecond + a.frac - b.frac

/-- Days since 1970-01-01 of a date in the proleptic Gregorian calendar, counted
in 400-year eras from 0000-03-01 (division rounds down, so years before it fall
in negative eras). -/
def daysOfCivil (y : Int) (m d : Nat) : Int :=
  let y := if m ≤ 2 then y - 1 else y
  let era := y / 400
  let yoe := y - era * 400
  let mp : Int := if m > 2 then (m : Int) - 3 else (m : Int) + 9
  let doy := (153 * mp + 2) / 5 + (d : Int) - 1
  let doe := yoe * 365 + yoe / 4 - yoe / 100 + doy
  era * 146097 + doe - 719468

/-- The date of a day count since 1970-01-01: year, month, day; the inverse of
`daysOfCivil`. -/
def civilOfDays (z : Int) : Int × Nat × Nat :=
  let z := z + 719468
  let era := z / 146097
  let doe := z - era * 146097
  let yoe := (doe - doe / 1460 + doe / 36524 - doe / 146096) / 365
  let y := yoe + era * 400
  let doy := doe - (365 * yoe + yoe / 4 - yoe / 100)
  let mp := (5 * doy + 2) / 153
  let d := doy - (153 * mp + 2) / 5 + 1
  let m := if mp < 10 then mp + 3 else mp - 9
  (if m ≤ 2 then y + 1 else y, m.toNat, d.toNat)

/-- Whether a year has a 29th of February. -/
def leapYear (y : Int) : Bool := (y % 4 = 0 ∧ y % 100 ≠ 0) ∨ y % 400 = 0

/-- The number of days in a month. -/
def monthLength (y : Int) (m : Nat) : Nat :=
  match m with
  | 2 => if leapYear y then 29 else 28
  | 4 | 6 | 9 | 11 => 30
  | _ => 31

/-- Two digits, zero-padded. -/
def pad2 (n : Nat) : String := if n < 10 then "0" ++ toString n else toString n

/-- A number padded with zeros to a width. -/
def padTo (width n : Nat) : String :=
  let s := toString n
  String.ofList (List.replicate (width - s.length) '0') ++ s

/-- The RFC 3339 text in UTC with the shortest of no, three, six or nine fraction digits. -/
def render (t : Instant) : String :=
  let day := t.seconds / 86400
  let inDay := (t.seconds % 86400).toNat
  let (y, m, d) := civilOfDays day
  let leap := t.frac ≥ nanosPerSecond
  let ns := if leap then t.frac - nanosPerSecond else t.frac
  let sec := inDay % 60 + if leap then 1 else 0
  let year :=
    if 0 ≤ y ∧ y ≤ 9999 then padTo 4 y.toNat
    else if y < 0 then "-" ++ padTo 4 y.natAbs else "+" ++ toString y
  let frac :=
    if ns = 0 then ""
    else if ns % 1000000 = 0 then "." ++ padTo 3 (ns / 1000000)
    else if ns % 1000 = 0 then "." ++ padTo 6 (ns / 1000)
    else "." ++ padTo 9 ns
  s!"{year}-{pad2 m}-{pad2 d}T{pad2 (inDay / 3600)}:{pad2 (inDay / 60 % 60)}:{pad2 sec}{frac}Z"

/-- Why a text is not an instant. -/
inductive ParseFault where
  | outOfRange
  | invalid
  | tooShort
  | tooLong
  deriving DecidableEq, Inhabited

/-- The words for each fault. -/
def ParseFault.text : ParseFault → String
  | .outOfRange => "input is out of range"
  | .invalid => "input contains invalid characters"
  | .tooShort => "premature end of input"
  | .tooLong => "trailing input"

/-- The text without its leading blanks. -/
def skipBlanks (cs : List Char) : List Char := cs.dropWhile Text.isBlank

/-- The value of ASCII digits. -/
def digitsValue (ds : List Char) : Nat := ds.foldl (fun acc c => acc * 10 + (c.toNat - '0'.toNat)) 0

/-- At least one and at most `most` digits, as many as stand there. -/
def number (cs : List Char) (most : Nat) : Except ParseFault (Nat × List Char) :=
  match cs with
  | [] => .error .tooShort
  | c :: _ =>
    if !c.isDigit then .error .invalid
    else
      let ds := (cs.take most).takeWhile Char.isDigit
      .ok (digitsValue ds, cs.drop ds.length)

/-- A field of one or two digits after optional blanks, within `[lo, hi]`. -/
def field (cs : List Char) (lo hi : Nat) : Except ParseFault (Nat × List Char) := do
  let (v, rest) ← number (skipBlanks cs) 2
  if v < lo ∨ hi < v then throw .outOfRange
  pure (v, rest)

/-- The largest signed 64-bit value. -/
def wordMax : Nat := 9223372036854775807

/-- The year after optional blanks: up to four digits, or a sign and any digits. -/
def year (cs : List Char) : Except ParseFault (Int × List Char) :=
  let signed (negative : Bool) (rest : List Char) : Except ParseFault (Int × List Char) := do
    let (v, rest) ← number rest rest.length
    if v > wordMax then throw .outOfRange
    let y : Int := if negative then -(v : Int) else v
    if y < -2147483648 ∨ 2147483647 < y then throw .outOfRange
    pure (y, rest)
  match skipBlanks cs with
  | '-' :: rest => signed true rest
  | '+' :: rest => signed false rest
  | other => do
    let (v, rest) ← number other 4
    pure ((v : Int), rest)

/-- One expected character after optional blanks. -/
def separator (c : Char) (cs : List Char) : Except ParseFault (List Char) :=
  match skipBlanks cs with
  | [] => .error .tooShort
  | x :: rest => if x = c then .ok rest else .error .invalid

/-- Nanoseconds of a fraction after its point: the first nine digits count. -/
def fraction (cs : List Char) : Except ParseFault (Nat × List Char) :=
  match cs with
  | '.' :: rest => do
    let (_, _) ← number rest 1
    let ds := rest.takeWhile Char.isDigit
    let kept := ds.take 9
    pure (digitsValue kept * Nat.pow 10 (9 - kept.length), rest.drop ds.length)
  | _ => .ok (0, cs)

/-- Whether a text holds at least two bytes of UTF-8. -/
def twoBytes : List Char → Bool
  | [] => false
  | [c] => c.utf8Size ≥ 2
  | _ => true

/-- A numeric offset after its sign, in seconds: two digits of hours, colons
or blanks, two digits of minutes below 60. -/
def offsetAfterSign (cs : List Char) : Except ParseFault (Nat × List Char) := do
  if !twoBytes cs then throw .tooShort
  let (hours, rest) ← match cs with
    | h1 :: h2 :: rest => if h1.isDigit ∧ h2.isDigit then pure (digitsValue [h1, h2], rest) else throw .invalid
    | _ => throw .invalid
  let rest := rest.dropWhile fun c => c = ':' ∨ Text.isBlank c
  if !twoBytes rest then throw .tooShort
  match rest with
  | m1 :: m2 :: rest =>
    if '0' ≤ m1 ∧ m1 ≤ '5' ∧ m2.isDigit then pure (hours * 3600 + digitsValue [m1, m2] * 60, rest)
    else if '6' ≤ m1 ∧ m1 ≤ '9' ∧ m2.isDigit then throw .outOfRange
    else throw .invalid
  | _ => throw .invalid

/-- The offset from UTC in seconds: `UTC` in any case, `Z`, `z`, or a signed
hours-and-minutes offset. -/
def offset (cs : List Char) : Except ParseFault (Int × List Char) :=
  match cs with
  | u :: t :: c :: rest =>
    if u.toLower = 'u' ∧ t.toLower = 't' ∧ c.toLower = 'c' then .ok (0, rest) else numeric cs
  | _ => numeric cs
where
  numeric (cs : List Char) : Except ParseFault (Int × List Char) :=
    match cs with
    | 'Z' :: rest | 'z' :: rest => .ok (0, rest)
    | [] => .error .tooShort
    | c :: rest =>
      if c = '+' then (offsetAfterSign rest).map fun (s, r) => ((s : Int), r)
      else if c = '-' ∨ c = '\u2212' then (offsetAfterSign rest).map fun (s, r) => (-(s : Int), r)
      else .error .invalid

/-- The first and last day that an instant may fall on. -/
def dayRange : Int × Int := (daysOfCivil (-262143) 1 1, daysOfCivil 262142 12 31)

/-- Read an instant from its relaxed RFC 3339 text. -/
def parse (s : String) : Except ParseFault Instant := do
  let (y, cs) ← year s.toList
  let cs ← separator '-' cs
  let (mo, cs) ← field cs 1 12
  let cs ← separator '-' cs
  let (d, cs) ← field cs 1 31
  let cs ← match cs with
    | [] => throw .tooShort
    | c :: rest => if c = 'T' ∨ c = 't' ∨ c = ' ' then pure rest else throw .invalid
  let (h, cs) ← field cs 0 23
  let cs ← separator ':' cs
  let (mi, cs) ← field cs 0 59
  let cs ← separator ':' cs
  let (sec, cs) ← field cs 0 60
  let (ns, cs) ← fraction cs
  let (off, cs) ← offset (skipBlanks cs)
  if !(skipBlanks cs).isEmpty then throw .tooLong
  if d > monthLength y mo ∨ y < -262143 ∨ 262142 < y then throw .outOfRange
  if off ≤ -86400 ∨ 86400 ≤ off then throw .outOfRange
  -- a leap second stays in the second before it
  let (sec, ns) := if sec = 60 then (59, ns + nanosPerSecond) else (sec, ns)
  let seconds : Int := daysOfCivil y mo d * 86400 + (h * 3600 + mi * 60 + sec : Nat) - off
  let day := seconds / 86400
  if day < dayRange.1 ∨ dayRange.2 < day then throw .outOfRange
  pure ⟨seconds, ns⟩

/-- Read an instant from a JSON string in the relaxed RFC 3339 form. -/
def decode : Json.Decoder Instant
  | .str s =>
    match parse s with
    | .ok t => .ok t
    | .error f => .error f.text
  | v => Json.Decode.wrongType v "a formatted date and time string or a unix timestamp"

end Instant

end StackOperator
