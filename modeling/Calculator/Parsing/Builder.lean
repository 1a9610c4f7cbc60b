import Calculator.Expr.Printer
import Calculator.Expr.Value

/-!
# What a descent builds

One descent serves two ends. It reports each construct that it has read to a builder, together with
the token that follows. The tree builder makes a node of it; the eager builder computes its value at
once, and so may fail where two numbers cannot be divided.
-/

namespace Calculator

/-- What to make of the constructs of an expression. -/
structure Builder (α : Type) where
  literal : Binary64 → α
  unary : Token → Sign → α → Except Failure α
  binary : Token → Operator → α → α → Except Failure α

namespace Builder

/-- Build the tree. -/
def tree : Builder Expr where
  literal := .literal
  unary _ sign e := .ok (.unary (.known sign) e)
  binary _ op l r := .ok (.binary (.known op) l r)

/-- Compute the value, node by node. A failure shows the node and the token that follows it. -/
def eager (ops : Arithmetic) : Builder Binary64 where
  literal x := x
  unary _ sign x := .ok (sign.apply x)
  binary current op x y :=
    match op.apply ops x y with
    | .ok z => .ok z
    | .error cause =>
      let node := Phrase.binary op (.literal x) (.literal y)
      .error ({ cause : Failure }.note (.evaluated node.text current))

end Builder

end Calculator
