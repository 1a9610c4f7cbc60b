import Calculator.Expr.Walk
import Calculator.Number.Fixed

/-!
# Trees as text

A tree is written with its operators between their operands, numbers with two places, and
parentheses only where reading the text again would otherwise give another tree. Operators of one
strength gather from the left, so a right operand of the same strength is put in parentheses and a
left one is not.
-/

namespace Calculator

/-- A text with the strength at which it holds together. -/
structure Phrase where
  text : String
  strength : Nat
deriving DecidableEq, Repr

namespace Phrase

/-- Numbers and signed operands hold together more tightly than any operator. -/
def atomStrength : Nat := 3

/-- The text in parentheses. -/
def enclosed (p : Phrase) : String := "(" ++ p.text ++ ")"

/-- A number. -/
def literal (x : Binary64) : Phrase := ⟨x.fixedText 2 false, atomStrength⟩

/-- An operand behind a name. -/
def behind (name : String) (p : Phrase) : Phrase :=
  let operand := if p.strength < atomStrength then p.enclosed else p.text
  ⟨name ++ operand, atomStrength⟩

/-- Two operands around a name that binds them with a strength. -/
def around (name : String) (strength : Nat) (l r : Phrase) : Phrase :=
  let left := if l.strength < strength then l.enclosed else l.text
  let right := if r.strength ≤ strength then r.enclosed else r.text
  ⟨left ++ " " ++ name ++ " " ++ right, strength⟩

/-- A signed operand. -/
def unary (sign : Sign) (p : Phrase) : Phrase := behind sign.text p

/-- Two operands joined by an operator. -/
def binary (op : Operator) (l r : Phrase) : Phrase := around op.text op.priority l r

end Phrase

/-- The handlers that write trees. What is no operator of the right kind is written as well, if it
gives what is asked of it. -/
def Handlers.phrase : Handlers Phrase where
  literal x := .ok (.literal x)
  unary mark _ p :=
    match mark with
    | .known sign => .ok (.unary sign p)
    | .other stray =>
      match stray.name? with
      | some name => .ok (.behind name p)
      | none => .error .unnamedOperator
  binary mark _ _ l r :=
    match mark with
    | .known op => .ok (.binary op l r)
    | .other stray =>
      match stray.strength?, stray.name? with
      | some strength, some name => .ok (.around name strength l r)
      | _, _ => .error .unnamedOperator

/-- The text of a tree. -/
def Expr.format (e : Expr) : Except Fault String :=
  (e.walk .phrase).map Phrase.text

end Calculator
