/-!
# Decimal literals

A decimal literal is an optional sign and then either a word `inf`,
`infinity` or `nan` in any case, or digits with an optional fraction and an
optional exponent, with at least one digit before the exponent: `1`, `-2.5`,
`.5`, `3.`, `1e-3`. `isLiteral` decides the grammar and `value` reads a
literal into the nearest double; a literal past the range of doubles reads as
an infinity or as zero.

Main statement: `isLiteral_point`, digits around a point form a literal when a digit
stands on at least one side, as in `0.1`, `.5` and `3.`.
-/

namespace StackOperator.Decimal

/-- Digits only, at least one. -/
def allDigits (cs : List Char) : Bool := !cs.isEmpty && cs.all Char.isDigit

/-- Whether characters form a decimal number without sign: digits with an
optional fraction, at least one digit in all, and an optional exponent. -/
def isUnsignedDecimal (cs : List Char) : Bool :=
  let whole := cs.takeWhile Char.isDigit
  let rest := cs.dropWhile Char.isDigit
  let (fraction, rest) := match rest with
    | '.' :: more => (more.takeWhile Char.isDigit, more.dropWhile Char.isDigit)
    | _ => ([], rest)
  (!whole.isEmpty || !fraction.isEmpty) &&
    match rest with
    | [] => true
    | e :: exponent =>
      (e == 'e' || e == 'E') &&
        match exponent with
        | '+' :: ds | '-' :: ds => allDigits ds
        | ds => allDigits ds

/-- A literal without its sign, and whether the sign was `-`. -/
def unsigned (s : String) : Bool × List Char :=
  match s.toList with
  | '-' :: rest => (true, rest)
  | '+' :: rest => (false, rest)
  | cs => (false, cs)

/-- The word of a literal without its sign, in lower case. -/
def word (cs : List Char) : String := String.ofList (cs.map Char.toLower)

/-- Whether a text is a decimal literal. -/
def isLiteral (s : String) : Bool :=
  let cs := (unsigned s).2
  let w := word cs
  w = "inf" || w = "infinity" || w = "nan" || isUnsignedDecimal cs

/-- Digits, a point and digits, with a digit on one side at least, form a number without sign. -/
theorem isUnsignedDecimal_point {whole fraction : List Char} (wholeDigits : ∀ c ∈ whole, c.isDigit = true)
    (fractionDigits : ∀ c ∈ fraction, c.isDigit = true) (someDigit : whole ≠ [] ∨ fraction ≠ []) :
    isUnsignedDecimal (whole ++ '.' :: fraction) = true := by
  have point : ¬('.').isDigit = true := by decide
  have fractionRun : fraction.takeWhile Char.isDigit = fraction := by
    simpa using @List.takeWhile_append_of_pos _ _ fraction [] fractionDigits
  have fractionRest : fraction.dropWhile Char.isDigit = [] := by
    simpa using @List.dropWhile_append_of_pos _ _ fraction [] fractionDigits
  simp [isUnsignedDecimal, List.takeWhile_append_of_pos wholeDigits, List.dropWhile_append_of_pos wholeDigits,
    List.takeWhile_cons_of_neg point, List.dropWhile_cons_of_neg point, fractionRun, fractionRest]
  exact someDigit

/-- A text of digits with a point among them is a literal when a digit stands on at least one side
of the point, as in the default ratio `0.1`. -/
theorem isLiteral_point {s : String} {whole fraction : List Char} (spelled : s.toList = whole ++ '.' :: fraction)
    (wholeDigits : ∀ c ∈ whole, c.isDigit = true) (fractionDigits : ∀ c ∈ fraction, c.isDigit = true)
    (someDigit : whole ≠ [] ∨ fraction ≠ []) : isLiteral s = true := by
  have unsignedOf : unsigned s = (false, whole ++ '.' :: fraction) := by
    unfold unsigned
    rw [spelled]
    cases whole with
    | nil => rfl
    | cons c rest =>
      -- a digit is no sign
      have digit := wholeDigits c List.mem_cons_self
      have notMinus : c ≠ '-' := by rintro rfl; exact absurd digit (by decide)
      have notPlus : c ≠ '+' := by rintro rfl; exact absurd digit (by decide)
      simp [notMinus, notPlus]
  simp [isLiteral, unsignedOf, isUnsignedDecimal_point wholeDigits fractionDigits someDigit]

example : isLiteral "0.1" = true := by rfl

/-- The number digits stand for. -/
def digitsValue (ds : List Char) : Nat := ds.foldl (fun acc c => acc * 10 + (c.toNat - '0'.toNat)) 0

/-- The double nearest to `mantissa × 10^exponent`, for a mantissa of `digits`
digits; past the range of doubles it is infinite or zero. -/
def scaledValue (mantissa : Nat) (exponent : Int) (digits : Nat) : Float :=
  if mantissa = 0 then 0.0
  else if 400 < exponent then 1.0 / 0.0
  else if exponent + digits < -400 then 0.0
  else if exponent < 0 then Float.ofScientific mantissa true exponent.natAbs
  else Float.ofScientific mantissa false exponent.toNat

/-- The value of a decimal literal. -/
def value (s : String) : Float :=
  let (negative, cs) := unsigned s
  let w := word cs
  let magnitude :=
    if w = "inf" || w = "infinity" then 1.0 / 0.0
    else if w = "nan" then 0.0 / 0.0
    else
      let whole := cs.takeWhile Char.isDigit
      let rest := cs.dropWhile Char.isDigit
      let (fraction, rest) := match rest with
        | '.' :: more => (more.takeWhile Char.isDigit, more.dropWhile Char.isDigit)
        | _ => ([], rest)
      let exponent : Int := match rest with
        | _ :: '-' :: ds => -(digitsValue ds : Int)
        | _ :: '+' :: ds => digitsValue ds
        | _ :: ds => digitsValue ds
        | [] => 0
      scaledValue (digitsValue (whole ++ fraction)) (exponent - fraction.length)
        (whole.length + fraction.length)
  if negative then -magnitude else magnitude

end StackOperator.Decimal
