import Calculator.Text.Boundaries

/-!
# Blank characters

The characters that separate tokens: the blanks and line ends of ASCII together with the four
information separators, and the space and line separators of Unicode.
-/

namespace Calculator.Text

/-- Boundaries of the blank characters. -/
def blankBoundaries : List Nat :=
  [9, 14, 28, 33, 133, 134, 160, 161, 5760, 5761, 8192, 8203, 8232, 8234, 8239, 8240, 8287, 8288,
   12288, 12289]

/-- Whether a character only separates: a space, a tab, a line end or a separator. -/
def isBlank (c : Char) : Bool :=
  within blankBoundaries c

/-- A text without the characters of a kind at its end. -/
def trimEnd (p : Char → Bool) (cs : List Char) : List Char := (cs.reverse.dropWhile p).reverse

/-- A text without the characters of a kind at its beginning and at its end. -/
def trim (p : Char → Bool) (cs : List Char) : List Char := trimEnd p (cs.dropWhile p)

end Calculator.Text
