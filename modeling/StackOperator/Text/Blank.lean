/-!
# Blank characters and trimming

`isBlank` is the Unicode `White_Space` property: the ASCII blanks and line
breaks, U+0085, the no-break space, the Ogham space mark, the spaces
U+2000–U+200A, the line and paragraph separators, the narrow no-break space,
the medium mathematical space and the ideographic space. The zero-width space
U+200B is not among them. `trim` drops blanks at both ends; `isBlankText`
holds of a text with nothing but blanks.
-/

namespace StackOperator.Text

/-- The Unicode `White_Space` property. -/
def isBlank (c : Char) : Bool :=
  let n := c.toNat
  (0x09 ≤ n ∧ n ≤ 0x0D) ∨ n = 0x20 ∨ n = 0x85 ∨ n = 0xA0 ∨ n = 0x1680 ∨
  (0x2000 ≤ n ∧ n ≤ 0x200A) ∨ n = 0x2028 ∨ n = 0x2029 ∨ n = 0x202F ∨ n = 0x205F ∨ n = 0x3000

/-- Every blank of core's ASCII class is a blank here. -/
theorem isBlank_of_isWhitespace (c : Char) (h : c.isWhitespace = true) : isBlank c = true := by
  simp only [Char.isWhitespace, Bool.or_eq_true, decide_eq_true_eq] at h
  simp only [isBlank, decide_eq_true_eq]
  rcases h with ((h | h) | h) | h <;> subst h <;> decide

/-- Drop blanks at both ends. -/
def trim (s : String) : String :=
  String.ofList ((s.toList.dropWhile isBlank).reverse.dropWhile isBlank).reverse

/-- Does a text hold only blanks (or nothing)? -/
def isBlankText (s : String) : Bool := s.toList.all isBlank

end StackOperator.Text
