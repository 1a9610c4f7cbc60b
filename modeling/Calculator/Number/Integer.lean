import Calculator.Number.Digits
import Calculator.Text.Blank

/-!
# Integers as text

Integers are read and written in base ten, up to a limit on their length.

An integer on the command line may be written freely: with white space around it, a sign, any number
of leading zeros and underscores between them, single underscores between its digits, and a point
with nothing but zeros behind it. All of this is taken away, and what remains must be an integer in
its plain form: no superfluous zeros, and at most a minus in front.
-/

namespace Calculator.Number

/-- How many digits an integer may have. -/
def maxDigits : Nat := 4300

/-- Why an integer is too long. -/
inductive LengthError where
  /-- It has more digits than can be read. -/
  | reading (digits : Nat)
  /-- It has more digits than can be written. -/
  | writing
deriving DecidableEq, Repr

/-- The wording of an error. -/
def LengthError.message : LengthError → String
  | reading digits =>
    "Exceeds the limit (4300 digits) for integer string conversion: value has " ++
      toString digits ++ " digits; use sys.set_int_max_str_digits() to increase the limit"
  | writing =>
    "Exceeds the limit (4300 digits) for integer string conversion; " ++
      "use sys.set_int_max_str_digits() to increase the limit"

/-- Whether an integer is short enough to be written. -/
def isWritable (n : Int) : Bool := decide (n.natAbs < Nat.pow 10 maxDigits)

/-- An integer in base ten. -/
def integerText (n : Int) : Except LengthError String :=
  if isWritable n then .ok (toString n) else .error .writing

/-! ## Freely written integers -/

/-- Whether a character is white space: blank, and none of the information separators. -/
def isWhite (c : Char) : Bool := Text.isBlank c && !(decide (28 ≤ c.toNat ∧ c.toNat ≤ 31))

/-- The sign of a text, and the text behind it. -/
def signAndRest : List Char → Bool × List Char
  | '-' :: cs => (true, cs)
  | '+' :: cs => (false, cs)
  | cs => (false, cs)

/-- Whether a text starts with a sign. -/
def hasSign : List Char → Bool
  | c :: _ => c = '-' || c = '+'
  | [] => false

/-- The text behind leading zeros and the underscores between them, of which `last` is the last
character. One character stays in front of a point and at the end, and a minus may follow the
zeros. -/
def behindZeros (last : Char) : List Char → Option (List Char)
  | [] => some [last]
  | c :: cs =>
    if c = '0' || c = '_' then behindZeros c cs
    else if c.isDigit || c = '-' then some (c :: cs)
    else if c = '.' then some (last :: c :: cs)
    else none

/-- The text behind leading zeros, if it starts with a digit at all. -/
def withoutZeros? : List Char → Option (List Char)
  | '0' :: cs => behindZeros '0' cs
  | c :: cs => if c.isDigit then some (c :: cs) else none
  | [] => none

/-- A text without a point that has only zeros behind it, and at least one. -/
def withoutZeroPlaces (cs : List Char) : List Char :=
  match cs.span fun c => c ≠ '.' with
  | (whole, _ :: places) => if !places.isEmpty && places.all (· = '0') then whole else cs
  | (_, []) => cs

/-- Whether underscores stand only one by one between other characters. -/
def singlyDivided : List Char → Bool
  | [] => true
  | c :: cs =>
    match cs with
    | [] => true
    | d :: _ => !(c = '_' && d = '_') && singlyDivided cs

/-- A text without its underscores, if they stand one by one and neither first nor last. -/
def withoutUnderscores (cs : List Char) : List Char :=
  if cs.head? = some '_' || cs.getLast? = some '_' || !singlyDivided cs then cs
  else cs.filter (· ≠ '_')

/-- The natural number that digits write in plain form: without superfluous zeros. -/
def plainNatural? (ds : List Char) : Option Nat :=
  if ds.isEmpty || !ds.all Char.isDigit || (ds.head? = some '0' && ds.length ≠ 1) ||
      decide (maxDigits < ds.length) then none
  else some (valueOfDigits ds)

/-- The integer that a text writes in plain form. -/
def plainInteger? (cs : List Char) : Option Int :=
  match cs with
  | '-' :: ds => (plainNatural? ds).map fun n => -(n : Int)
  | ds => (plainNatural? ds).map fun n => (n : Int)

/-- The integer that a text writes freely. -/
def integerOf? (s : String) : Option Int :=
  let (negative, body) := signAndRest (Text.trim isWhite s.toList)
  if hasSign body then none
  else
    match withoutZeros? body with
    | none => none
    | some cs =>
      let cs := withoutUnderscores (withoutZeroPlaces cs)
      plainInteger? (if negative then '-' :: cs else cs)

end Calculator.Number
