import Calculator.Number.Decimal

/-!
# The fewest digits

The shortest decimal that reads back as a given number has at most seventeen digits. For one, two
and more digits the two neighbours of the number on the grid of decimals with so many digits are
tried; the first grid on which one of them reads back gives the answer, and of two the nearer wins.
-/

namespace Calculator.Decimal

/-- A positive quotient lies between two powers of ten; this is the exponent of the lower one. It is
searched from above, starting at `high`. -/
def leadingExponent (n d : Nat) (high : Int) : Nat → Int
  | 0 => high
  | fuel + 1 =>
    let reached :=
      match high with
      | .ofNat e => decide (d * Nat.pow 10 e ≤ n)
      | .negSucc e => decide (d ≤ n * Nat.pow 10 (e + 1))
    if reached then high else leadingExponent n d (high - 1) fuel

/-- The neighbours of `n / d` on the grid of the multiples of `10 ^ place`, the nearer one first; a
half prefers the even one. -/
def neighbours (n d : Nat) (place : Int) : List Decimal :=
  let (n, d) :=
    match place with
    | .ofNat e => (n, d * Nat.pow 10 e)
    | .negSucc e => (n * Nat.pow 10 (e + 1), d)
  let q := n / d
  let below : Decimal := ⟨q, place⟩
  let above : Decimal := ⟨q + 1, place⟩
  if Number.roundHalfEven n d = q then [below, above] else [above, below]

/-- The first decimal with at least `count` digits that reads back as `x`. -/
def shortestFrom (x : Binary64) (lead : Int) (count : Nat) : Nat → Option Decimal
  | 0 => none
  | fuel + 1 =>
    let candidates := neighbours x.units Binary64.unitsPerOne (lead + 1 - count)
    match candidates.find? fun c => c.word == x.magnitude with
    | some c => some c
    | none => shortestFrom x lead (count + 1) fuel

/-- The shortest decimal that reads back as the absolute value of a finite number. -/
def shortest (x : Binary64) : Decimal :=
  if x.isZero then ⟨0, 0⟩
  else
    let lead := leadingExponent x.units Binary64.unitsPerOne 308 632
    (shortestFrom x lead 1 17).getD ⟨0, 0⟩

end Calculator.Decimal
