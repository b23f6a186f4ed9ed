/-!
# Unsigned integers

An unsigned integer up to a limit is written in decimal, with an optional
leading `+`. The reader goes from the left and stops at the first fault: a
character that is not a digit, or a value past the limit, whichever comes
first. An empty text is refused as such, and a lone sign as a bad digit.

Main statement: `readUnsigned_le`, a value read is at most the limit.
-/

namespace StackOperator.Decimal

/-- Why a text is not an unsigned integer. -/
inductive UnsignedFault where
  | empty
  | invalidDigit
  | tooLarge
  deriving DecidableEq, Repr

/-- The report of a fault. -/
def UnsignedFault.message : UnsignedFault → String
  | .empty => "cannot parse integer from empty string"
  | .invalidDigit => "invalid digit found in string"
  | .tooLarge => "number too large to fit in target type"

/-- Read digits after the value `acc`, refusing the first character that is
not a digit and the first value past `limit`. -/
def readDigitsUpTo (limit : Nat) : List Char → Nat → Except UnsignedFault Nat
  | [], acc => .ok acc
  | c :: rest, acc =>
    if !c.isDigit then .error .invalidDigit
    else
      let acc := acc * 10 + (c.toNat - '0'.toNat)
      if limit < acc then .error .tooLarge else readDigitsUpTo limit rest acc

/-- Read an unsigned integer up to `limit` from its characters. -/
def readUnsignedChars (limit : Nat) : List Char → Except UnsignedFault Nat
  | [] => .error .empty
  | ['+'] => .error .invalidDigit
  | '+' :: c :: rest => readDigitsUpTo limit (c :: rest) 0
  | cs => readDigitsUpTo limit cs 0

/-- Read an unsigned integer up to `limit`. -/
def readUnsigned (limit : Nat) (s : String) : Except UnsignedFault Nat :=
  readUnsignedChars limit s.toList

/-- A value read is at most the limit, when reading starts at most there. -/
theorem readDigitsUpTo_le (limit : Nat) :
    ∀ (cs : List Char) (acc n : Nat), acc ≤ limit →
      readDigitsUpTo limit cs acc = .ok n → n ≤ limit
  | [], acc, n, hacc, h => by
    simp only [readDigitsUpTo, Except.ok.injEq] at h
    omega
  | c :: rest, acc, n, _, h => by
    simp only [readDigitsUpTo] at h
    split at h
    · cases h
    · split at h
      · cases h
      · exact readDigitsUpTo_le limit rest _ n (by omega) h

/-- An unsigned integer read up to a limit is at most the limit. -/
theorem readUnsigned_le {limit n : Nat} {s : String} (read : readUnsigned limit s = .ok n) : n ≤ limit := by
  unfold readUnsigned readUnsignedChars at read
  -- with or without its sign, the digits are read from zero
  split at read
  · cases read
  · cases read
  · exact readDigitsUpTo_le limit _ 0 n (Nat.zero_le _) read
  · exact readDigitsUpTo_le limit _ 0 n (Nat.zero_le _) read

end StackOperator.Decimal
