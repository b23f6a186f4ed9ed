/-!
# Spans of time as text

A span of whole nanoseconds is shown in the largest of the units `s`, `ms`,
`µs` and `ns` that it reaches, as a decimal number of that unit whose
fraction keeps every significant digit and drops trailing zeros: thirty
seconds is `30s`, a second and a half `1.5s`, 1200 nanoseconds `1.2µs`, and
the empty span `0ns`.

Main statement: `render_seconds`, a span of whole seconds is that number of
seconds.
-/

namespace StackOperator.Span

/-- The digits of `frac` written with exactly `width` digits, trailing zeros dropped. -/
def fractionDigits (frac width : Nat) : String :=
  let digits := (Nat.toDigits 10 frac)
  let padded := List.replicate (width - digits.length) '0' ++ digits
  String.ofList (padded.reverse.dropWhile (· == '0')).reverse

/-- `whole` units and `frac` of `10 ^ width` parts of one, as a decimal. -/
def decimal (whole frac width : Nat) : String :=
  if frac = 0 then toString whole else toString whole ++ "." ++ fractionDigits frac width

/-- A span of `nanos` nanoseconds as text. -/
def render (nanos : Nat) : String :=
  if 1000000000 ≤ nanos then decimal (nanos / 1000000000) (nanos % 1000000000) 9 ++ "s"
  else if 1000000 ≤ nanos then decimal (nanos / 1000000) (nanos % 1000000) 6 ++ "ms"
  else if 1000 ≤ nanos then decimal (nanos / 1000) (nanos % 1000) 3 ++ "µs"
  else toString nanos ++ "ns"

theorem render_seconds (k : Nat) (h : 0 < k) : render (k * 1000000000) = toString k ++ "s" := by
  have hle : 1000000000 ≤ k * 1000000000 := Nat.le_mul_of_pos_left _ h
  simp [render, decimal, hle, Nat.mul_div_cancel _ (by decide : 0 < 1000000000)]

end StackOperator.Span
