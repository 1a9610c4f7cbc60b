import Calculator.Expr.Printer
import Calculator.Expr.Value

/-!
# The line with the result

A result is shown together with its expression, unless the expression has more nodes than the
display threshold allows.
-/

namespace Calculator

/-- How results are presented. -/
structure OutputSettings where
  /-- The largest number of nodes with which an expression is shown. -/
  displayThreshold : Int := 1000
  /-- The number of decimal places. -/
  precision : Int := 2
  /-- Whether the whole part is grouped in thousands. -/
  groupThousands : Bool := true
deriving DecidableEq, Repr

/-- Why a result cannot be presented. -/
inductive ReportFault where
  | precision (e : PrecisionError)
  | walk (fault : Fault)
deriving DecidableEq, Repr

/-- The line that presents the value of an expression. -/
def renderResult (e : Expr) (value : Binary64) (output : OutputSettings) :
    Except ReportFault String :=
  match formatNumber value output.precision output.groupThousands with
  | .error err => .error (.precision err)
  | .ok number =>
    match e.size with
    | .error fault => .error (.walk fault)
    | .ok size =>
      if size ≤ output.displayThreshold then
        match e.format with
        | .error fault => .error (.walk fault)
        | .ok text => .ok ("Eval(" ++ text ++ ") = " ++ number)
      else .ok ("Eval() = " ++ number)

end Calculator
