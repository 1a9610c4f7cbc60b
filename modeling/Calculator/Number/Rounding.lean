/-!
# Rounding quotients

All rounding of this library, from decimal to binary and back, is the rounding of one exact quotient
of natural numbers to the nearest natural number, a half going to the even neighbour.
-/

namespace Calculator.Number

/-- The quotient `n / d` rounded to the nearest natural number; a half goes to the even one. -/
def roundHalfEven (n d : Nat) : Nat :=
  let q := n / d
  let r := n % d
  if 2 * r < d then q
  else if d < 2 * r then q + 1
  else if q % 2 = 0 then q
  else q + 1

end Calculator.Number
