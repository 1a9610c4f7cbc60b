/-!
# Decimal digits

Digits are the ten characters of ASCII. A list of digits and the natural number that it writes are
the two views between which reading and writing go.
-/

namespace Calculator.Number

/-- The value of a digit. -/
def digitValue (c : Char) : Nat := c.toNat - 48

/-- The natural number that a list of digits writes. -/
def valueOfDigits (ds : List Char) : Nat :=
  ds.foldl (fun n c => n * 10 + digitValue c) 0

/-- The digits of a natural number, without superfluous zeros. -/
def digitsOf (n : Nat) : List Char := Nat.toDigits 10 n

/-- The digits of a natural number, filled up with zeros on the left to at least `width`. -/
def digitsPadded (width n : Nat) : List Char :=
  let ds := digitsOf n
  List.replicate (width - ds.length) '0' ++ ds

end Calculator.Number
