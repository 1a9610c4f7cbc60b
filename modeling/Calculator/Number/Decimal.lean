import Calculator.Number.Binary64
import Calculator.Number.Digits
import Calculator.Number.Rounding

/-!
# Reading decimals

A decimal is read exactly, as a coefficient and a power of ten, and only then rounded to the nearest
double-precision number. The rounding is one division: the value is counted in units, the position
of its leading bit fixes the scale, and the quotient at that scale is the significand.
-/

namespace Calculator

/-- The exact value `coefficient * 10 ^ exponent`. -/
structure Decimal where
  coefficient : Nat
  exponent : Int
deriving DecidableEq, Repr

namespace Decimal

open Number

/-- Whether a character introduces an exponent. -/
def isExponentMark (c : Char) : Bool := c = 'e' || c = 'E'

/-- The exponent that follows its mark, which needs at least one digit. -/
def exponentOf? (cs : List Char) : Option Int :=
  let (negative, ds) :=
    match cs with
    | '-' :: ds => (true, ds)
    | '+' :: ds => (false, ds)
    | ds => (false, ds)
  if ds.isEmpty || !ds.all Char.isDigit then none
  else
    let n : Int := valueOfDigits ds
    some (if negative then -n else n)

/-- The value of a text such as `12`, `1.5`, `.5`, `1.` or `2.5E-3`. There is none when the exponent
has no digits. -/
def ofChars? (cs : List Char) : Option Decimal :=
  let (whole, rest) := cs.span Char.isDigit
  let (fraction, rest) :=
    match rest with
    | '.' :: more => more.span Char.isDigit
    | _ => ([], rest)
  if whole.isEmpty && fraction.isEmpty then none
  else
    let coefficient := valueOfDigits (whole ++ fraction)
    let shift : Int := -fraction.length
    match rest with
    | [] => some ⟨coefficient, shift⟩
    | c :: more =>
      if isExponentMark c then (exponentOf? more).map fun e => ⟨coefficient, e + shift⟩
      else none

/-- The pattern of the number nearest to the quotient `n / d`. A quotient beyond the largest finite
number gives the pattern of infinity or one above it. -/
def nearestWord (n d : Nat) : Nat :=
  let n := n * Binary64.unitsPerOne
  let scale := Nat.log2 (n / d) - 52
  scale <<< 52 + roundHalfEven n (d <<< scale)

/-- No finite number reaches this power of ten, and the reciprocal of the power rounds to zero. -/
def farExponent : Nat := 400

/-- The pattern of the number nearest to a decimal. Powers of ten that settle the answer by their
size alone are not computed. -/
def word (x : Decimal) : Nat :=
  if x.coefficient = 0 then 0
  else
    match x.exponent with
    | .ofNat e =>
      if farExponent < e then Binary64.infinityWord
      else nearestWord (x.coefficient * Nat.pow 10 e) 1
    | .negSucc e =>
      if Nat.log2 x.coefficient + farExponent < e then 0
      else nearestWord x.coefficient (Nat.pow 10 (e + 1))

/-- The number nearest to a decimal, a half going to the even pattern; none when it is out of
range. -/
def toBinary64? (x : Decimal) : Option Binary64 :=
  let w := x.word
  if w < Binary64.infinityWord then some (.ofWord w) else none

end Decimal

end Calculator
