import Calculator.Number.Binary64
import Calculator.Number.Digits
import Calculator.Number.Integer
import Calculator.Number.Rounding

/-!
# Fixed places

A number is written with a fixed number of decimal places by rounding its exact value, counted in
the last place, to the nearest natural number; a half goes to the even neighbour. All digits of the
whole part are written, and the sign is kept even where the digits are all zero. The whole part may
be grouped in thousands.
-/

namespace Calculator

open Number

/-- The absolute value of a finite number, counted in the last of `places` decimal places. -/
def Binary64.scaledBy (x : Binary64) (places : Nat) : Nat :=
  roundHalfEven (x.units * Nat.pow 10 places) Binary64.unitsPerOne

/-- A comma between the groups of three, for digits in reverse order. -/
def groupReversed : List Char → List Char
  | a :: b :: c :: d :: ds => a :: b :: c :: ',' :: groupReversed (d :: ds)
  | ds => ds

/-- Digits with a comma between the groups of three, counted from the right. -/
def groupThousands (ds : List Char) : List Char :=
  (groupReversed ds.reverse).reverse

/-- The whole part and the digits of the places of `n`, which counts in the last place. -/
def splitPlaces (places n : Nat) : List Char × List Char :=
  let ds := digitsPadded (places + 1) n
  ds.splitAt (ds.length - places)

/-- A number without its sign. -/
def Binary64.unsignedText (x : Binary64) (places : Nat) (grouped : Bool) : List Char :=
  let (whole, fraction) := splitPlaces places (x.scaledBy places)
  let whole := if grouped then groupThousands whole else whole
  if places = 0 then whole else whole ++ '.' :: fraction

/-- A number with a fixed number of decimal places. -/
def Binary64.fixedText (x : Binary64) (places : Nat) (grouped : Bool) : String :=
  if x.isNaN then "nan"
  else
    let body := if x.isFinite then x.unsignedText places grouped else ['i', 'n', 'f']
    String.ofList (if x.negative then '-' :: body else body)

/-- Why a precision cannot be used. -/
inductive PrecisionError where
  | negative
  | tooBig
  | unreadable
  /-- It is too long to be written, which comes before it could be read. -/
  | unwritable
deriving DecidableEq, Repr

/-- The wording of a refused precision. -/
def PrecisionError.message : PrecisionError → String
  | .negative => "Format specifier missing precision"
  | .tooBig => "precision too big"
  | .unreadable => "Too many decimal digits in format string"
  | .unwritable => LengthError.writing.message

/-- Why a precision is refused, if it can be written at all. -/
def refusalOf (precision : Int) (reason : PrecisionError) : PrecisionError :=
  if isWritable precision then reason else .unwritable

/-- The number of places that a precision asks for. It is written in base ten and read again, as a
machine integer of 32 bits; one that does not even fit 64 bits is refused while it is read. -/
def placesOf (precision : Int) : Except PrecisionError Nat :=
  if precision < 0 then .error (refusalOf precision .negative)
  else if 1 <<< 63 ≤ precision.toNat then .error (refusalOf precision .unreadable)
  else if 1 <<< 31 ≤ precision.toNat then .error .tooBig
  else .ok precision.toNat

/-- A number with `precision` decimal places, its whole part grouped in thousands if asked. -/
def formatNumber (x : Binary64) (precision : Int) (grouped : Bool) :
    Except PrecisionError String :=
  match placesOf precision with
  | .error e => .error e
  | .ok places => .ok (x.fixedText places grouped)

end Calculator
