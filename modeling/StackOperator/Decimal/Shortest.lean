/-!
# Shortest decimal text of a double

A finite double stands for `m · 2^q`. Every real in the interval between the
midpoints to its two neighbours reads back as the same double (the ends too
when `m` is even, since a tie goes to the even neighbour). `shortest` picks,
among the decimals in that interval, one with the fewest significant digits,
and of two such the nearer to the double. It tries grids of 1, 2, … 17
significant digits and takes the first grid with a point in the interval,
which is found among the two grid points around the value: if any point of
the grid lies in the interval, one of those two does. When the double lies
exactly halfway between the two, a `Tie` rule picks one.

`display` writes the result positionally, never with an exponent:
`0.1`, `100`, `0.0000001`; `inf`, `-inf` and `NaN` for the other doubles; a
tie goes up. `jsonText` writes large and small doubles with an exponent; a
tie goes to the even digit.
-/

namespace StackOperator.Decimal

/-- A double taken apart. -/
inductive Parts where
  | nan
  | infinite (negative : Bool)
  /-- `(-1)^negative · mantissa · 2^exponent`; `lowerHalfGap` when the gap to the
  next smaller double is half the gap to the next larger one. -/
  | finite (negative : Bool) (mantissa : Nat) (exponent : Int) (lowerHalfGap : Bool)

/-- Decode the bits of a double. -/
def parts (f : Float) : Parts :=
  let bits : Nat := f.toBits.toNat
  let negative := bits / Nat.pow 2 63 = 1
  let e : Nat := (bits / Nat.pow 2 52) % 2048
  let frac : Nat := bits % Nat.pow 2 52
  if e = 2047 then (if frac = 0 then .infinite negative else .nan)
  else if e = 0 then .finite negative frac (-1074) false
  else .finite negative (frac + Nat.pow 2 52) ((e : Int) - 1075) (frac = 0 ∧ e > 1)

/-- Compare `a · 10^k` with `b · 2^e` exactly. -/
def compareScaled (a : Nat) (k : Int) (b : Nat) (e : Int) : Ordering :=
  let lhs := a * Nat.pow 10 k.toNat * Nat.pow 2 (-e).toNat
  let rhs := b * Nat.pow 2 e.toNat * Nat.pow 10 (-k).toNat
  compare lhs rhs

/-- Decimal digits `digits · 10^exponent`. -/
structure Digits where
  digits : Nat
  exponent : Int
  deriving DecidableEq, Repr

/-- Drop trailing zero digits into the exponent (a grid point may be a power of ten). -/
def Digits.trim (d : Digits) : Digits :=
  let rec go : Nat → Nat → Int → Digits
    | 0, n, k => ⟨n, k⟩
    | fuel + 1, n, k => if n ≠ 0 ∧ n % 10 = 0 then go fuel (n / 10) (k + 1) else ⟨n, k⟩
  go 20 d.digits d.exponent

/-- The exponent `K` with `10^K ≤ m · 2^q < 10^(K+1)`, for `m > 0`. -/
def decimalMagnitude (m : Nat) (q : Int) : Int :=
  let estimate : Int := ((Nat.log2 m : Int) + q) * 30103 / 100000
  let rec down : Nat → Int → Int
    | 0, k => k
    | fuel + 1, k => if compareScaled 1 k m q == .gt then down fuel (k - 1) else k
  let rec up : Nat → Int → Int
    | 0, k => k
    | fuel + 1, k => if compareScaled 1 (k + 1) m q != .gt then up fuel (k + 1) else k
  up 4 (down 4 estimate)

/-- Which of two decimals, as near as each other to a double, is taken. -/
inductive Tie where
  /-- The larger digits. -/
  | up
  /-- The digits whose last is even. -/
  | even
  deriving DecidableEq, Repr

/-- The shortest decimal for `m · 2^q` (with `m > 0`), given its rounding
interval, the nearer of two with a tie settled by `tie`. -/
def shortestOf (tie : Tie) (m : Nat) (q : Int) (lowerHalfGap : Bool) : Digits :=
  -- values in quarter units 2^(q-2)
  let v := 4 * m
  let high := 4 * m + 2
  let low := if lowerHalfGap then 4 * m - 1 else 4 * m - 2
  let inclusive := m % 2 = 0
  let e := q - 2
  let within (d : Nat) (k : Int) : Bool :=
    let aboveLow := match compareScaled d k low e with
      | .gt => true
      | .eq => inclusive
      | .lt => false
    let belowHigh := match compareScaled d k high e with
      | .lt => true
      | .eq => inclusive
      | .gt => false
    aboveLow && belowHigh
  let mag := decimalMagnitude m q
  let rec search : Nat → Nat → Digits
    | 0, _ => ⟨m, 0⟩
    | fuel + 1, n =>
      let k : Int := mag - n + 1
      let num := v * Nat.pow 2 e.toNat * Nat.pow 10 (-k).toNat
      let den := Nat.pow 2 (-e).toNat * Nat.pow 10 k.toNat
      let d := num / den
      let loOk := within d k
      let hiOk := within (d + 1) k
      if loOk && hiOk then
        -- the nearer of the two, a tie settled by the rule
        let upper := match compareScaled (2 * d + 1) k (2 * v) e, tie with
          | .lt, _ => true
          | .gt, _ => false
          | .eq, .up => true
          | .eq, .even => d % 2 = 1
        if upper then Digits.trim ⟨d + 1, k⟩ else ⟨d, k⟩
      else if loOk then ⟨d, k⟩
      else if hiOk then Digits.trim ⟨d + 1, k⟩
      else search fuel (n + 1)
  search 17 1

/-- The text of a natural number in base ten. -/
def natText (n : Nat) : String := String.ofList (Nat.toDigits 10 n)

/-- Digits placed around a decimal point without an exponent. -/
def positional (d : Digits) : String :=
  let s := natText d.digits
  if d.exponent ≥ 0 then s ++ String.ofList (List.replicate d.exponent.toNat '0')
  else
    let point : Int := (s.length : Int) + d.exponent
    if point > 0 then
      String.ofList (s.toList.take point.toNat) ++ "." ++ String.ofList (s.toList.drop point.toNat)
    else "0." ++ String.ofList (List.replicate (-point).toNat '0') ++ s

/-- A double written positionally with the fewest digits that read back. -/
def display (f : Float) : String :=
  match parts f with
  | .nan => "NaN"
  | .infinite neg => if neg then "-inf" else "inf"
  | .finite neg m q half =>
    let sign := if neg then "-" else ""
    if m = 0 then sign ++ "0" else sign ++ positional (shortestOf .up m q half)

/-- A finite double with the fewest digits that read back: positional with
a fraction when the decimal point falls within 16 digits, otherwise one digit
before the point and an exponent, which carries a plus sign when
`signedExponent` asks for one. -/
def scientificText (signedExponent : Bool) (f : Float) : String :=
  match parts f with
  | .nan | .infinite _ => "null"
  | .finite neg m q half =>
    let sign := if neg then "-" else ""
    if m = 0 then sign ++ "0.0" else
    let d := shortestOf .even m q half
    let s := natText d.digits
    let point : Int := (s.length : Int) + d.exponent
    if d.exponent ≥ 0 ∧ point ≤ 16 then sign ++ positional d ++ ".0"
    else if d.exponent < 0 ∧ point > -5 then sign ++ positional d
    else
      let mant := match s.toList with
        | [c] => String.singleton c
        | c :: rest => String.singleton c ++ "." ++ String.ofList rest
        | [] => "0"
      let plus := if signedExponent ∧ point > 1 then "+" else ""
      sign ++ mant ++ "e" ++ plus ++ toString (point - 1)

/-- A finite double as a JSON number, its exponent unsigned when positive. -/
def jsonText (f : Float) : String := scientificText false f

/-- A double as a message names it, its exponent signed. -/
def messageText (f : Float) : String := scientificText true f

end StackOperator.Decimal
