import Calculator.Expr.Walk

/-!
# The value of a tree

Evaluation is the walk that computes numbers. The only way in which arithmetic fails is a divisor
that is exactly zero; everything else overflows to infinity or becomes undefined.
-/

namespace Calculator

/-- The value of a signed number. -/
def Sign.apply : Sign → Binary64 → Binary64
  | plus, x => x
  | minus, x => x.neg

/-- The value of two numbers under an operator. -/
def Operator.apply (ops : Arithmetic) : Operator → Binary64 → Binary64 → Except Cause Binary64
  | add, x, y => .ok (ops.add x y)
  | sub, x, y => .ok (ops.sub x y)
  | mul, x, y => .ok (ops.mul x y)
  | div, x, y => if y.isZero then .error .divisionByZero else .ok (ops.div x y)

/-- The value of a signed number under what stands at the position of its sign. -/
def Mark.applySign (mark : Mark Sign) (x : Binary64) : Except Cause Binary64 :=
  match mark with
  | .known sign => .ok (sign.apply x)
  | .other stray =>
    match stray.sign? with
    | some sign => .ok (sign.apply x)
    | none => .error (.unsupportedSign stray.shown)

/-- The value of two numbers under what stands at the position of their operator. -/
def Mark.apply (ops : Arithmetic) (mark : Mark Operator) (x y : Binary64) :
    Except Cause Binary64 :=
  match mark with
  | .known op => op.apply ops x y
  | .other stray =>
    match stray.operator? with
    | some op => op.apply ops x y
    | none => .error (.unsupportedOperator stray.shown)

/-- A cause as the fault of the node at which it arose. -/
def Fault.ofCause (cause : Cause) : Fault := .failed { cause }

/-- The handlers that compute values. -/
def Handlers.value (ops : Arithmetic) : Handlers Binary64 where
  literal x := .ok x
  unary mark _ x := (mark.applySign x).mapError Fault.ofCause
  binary mark _ _ x y := (mark.apply ops x y).mapError Fault.ofCause

/-- The value of a tree. -/
def Expr.evaluate (ops : Arithmetic) (e : Expr) : Except Fault Binary64 :=
  e.walk (.value ops)

/-- The handlers that count nodes. -/
def Handlers.count : Handlers Nat where
  literal _ := .ok 1
  unary _ _ n := .ok (n + 1)
  binary _ _ _ m n := .ok (m + n + 1)

/-- The number of nodes of a tree, numbers and operators together. -/
def Expr.size (e : Expr) : Except Fault Nat :=
  e.walk .count

end Calculator
