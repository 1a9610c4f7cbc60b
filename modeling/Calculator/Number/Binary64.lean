/-!
# Double-precision numbers

A double-precision number is its pattern of 64 bits. Sign, exponent and fraction are read off the
pattern as natural numbers, so that reading, writing and comparing with zero are exact integer
arithmetic; only the four operations are left to the machine.

Without its sign a finite number is `significand * 2 ^ scale` units, where one unit, the smallest
positive number, is `2 ^ (-1074)`. The patterns of the positive numbers are ordered as the numbers
are, and the pattern of infinity follows that of the largest finite number.
-/

namespace Calculator

/-- A double-precision number, as its bit pattern. -/
structure Binary64 where
  bits : UInt64
deriving DecidableEq, Repr, Inhabited

namespace Binary64

/-- The bit pattern as a natural number. -/
def word (x : Binary64) : Nat := x.bits.toNat

/-- The number with the given bit pattern. -/
def ofWord (w : Nat) : Binary64 := ⟨UInt64.ofNat w⟩

/-- Whether the sign bit is set. -/
def negative (x : Binary64) : Bool := decide (1 <<< 63 ≤ x.word)

/-- The pattern without its sign bit. -/
def magnitude (x : Binary64) : Nat := x.word % 1 <<< 63

/-- The exponent field. -/
def exponent (x : Binary64) : Nat := x.magnitude >>> 52

/-- The fraction field. -/
def fraction (x : Binary64) : Nat := x.word % 1 <<< 52

/-- The pattern of positive infinity. -/
def infinityWord : Nat := 2047 <<< 52

/-- Whether a number is neither infinite nor undefined. -/
def isFinite (x : Binary64) : Bool := decide (x.magnitude < infinityWord)

/-- Whether a number is undefined, such as the difference of two infinities. -/
def isNaN (x : Binary64) : Bool := decide (infinityWord < x.magnitude)

/-- Whether a number is zero, of either sign. -/
def isZero (x : Binary64) : Bool := decide (x.magnitude = 0)

/-- The digits of a finite number in base two, as one natural number. -/
def significand (x : Binary64) : Nat :=
  if x.exponent = 0 then x.fraction else 1 <<< 52 + x.fraction

/-- How often the significand of a finite number is doubled to count units. -/
def scale (x : Binary64) : Nat := x.exponent - 1

/-- The absolute value of a finite number, counted in units. -/
def units (x : Binary64) : Nat := x.significand <<< x.scale

/-- How many units make one. -/
def unitsPerOne : Nat := 1 <<< 1074

/-- Equality of values: the two zeros are equal, and an undefined number equals nothing. -/
def sameValue (x y : Binary64) : Bool :=
  !x.isNaN && !y.isNaN && (x == y || x.isZero && y.isZero)

/-- The number with the opposite sign. -/
def neg (x : Binary64) : Binary64 := ⟨x.bits ^^^ 0x8000000000000000⟩

/-- The number as the machine holds it. -/
def toFloat (x : Binary64) : Float := Float.ofBits x.bits

/-- The number that the machine holds. -/
def ofFloat (x : Float) : Binary64 := ⟨x.toBits⟩

end Binary64

/-- An interpretation of the four operations. Parsing, walking and formatting never look inside
one, so what is said of them holds of every interpretation. -/
structure Arithmetic where
  add : Binary64 → Binary64 → Binary64
  sub : Binary64 → Binary64 → Binary64
  mul : Binary64 → Binary64 → Binary64
  div : Binary64 → Binary64 → Binary64

/-- The operations of the machine, rounded to the nearest number with halves to the even one. -/
def Arithmetic.machine : Arithmetic where
  add x y := .ofFloat (x.toFloat + y.toFloat)
  sub x y := .ofFloat (x.toFloat - y.toFloat)
  mul x y := .ofFloat (x.toFloat * y.toFloat)
  div x y := .ofFloat (x.toFloat / y.toFloat)

end Calculator
