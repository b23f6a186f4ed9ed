import StackOperator.Decimal.Shortest

/-!
# Scaling resource quantities

A quantity such as `768Mi` or `1500m` is a decimal number followed by a unit.
`Quantity.scale` multiplies the number by a ratio, cuts the product to three
decimal places (after adding 10⁻⁶ to absorb binary representation error) and
puts the unit back: `scale "768Mi" 0.1 = some "76.8Mi"`. The number is the
longest prefix of ASCII digits and points; it must read as a decimal (at
least one digit, at most one point), otherwise there is no result.
-/

namespace StackOperator.Quantity

/-- The numeric prefix and the unit of a quantity. -/
def split (q : String) : String × String :=
  let cs := q.toList
  let number := cs.takeWhile fun c => c.isDigit || c = '.'
  (String.ofList number, String.ofList (cs.drop number.length))

/-- A decimal `digits[.digits]` (either side may be empty, not both) as the nearest double. -/
def parseDecimal (s : String) : Option Float :=
  let cs := s.toList
  let intPart := cs.takeWhile Char.isDigit
  let rest := cs.drop intPart.length
  let (fracPart, tail) : List Char × List Char :=
    match rest with
    | '.' :: more => (more.takeWhile Char.isDigit, more.drop (more.takeWhile Char.isDigit).length)
    | other => ([], other)
  if !tail.isEmpty then none
  else if intPart.isEmpty ∧ fracPart.isEmpty then none
  else
    let digits := intPart ++ fracPart
    let mantissa := digits.foldl (fun n c => n * 10 + (c.toNat - '0'.toNat)) 0
    some (Float.ofScientific mantissa true fracPart.length)

/-- The quantity with its number multiplied by `ratio` and cut to three decimals. -/
def scale (limit : String) (ratio : Float) : Option String :=
  let (number, unit) := split limit
  (parseDecimal number).map fun value =>
    let truncated := (value * ratio * 1000.0 + 1e-6).floor / 1000.0
    Decimal.display truncated ++ unit

end StackOperator.Quantity
