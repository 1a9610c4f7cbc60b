import Calculator.Token.Basic

/-!
# Failures

A failure has a cause, the offset at which it was found, and a trail of crumbs: each construct that
the failure leaves on its way out adds one, so the trail tells where it happened. Causes and crumbs
are data; their wording is in one function each.
-/

namespace Calculator

/-- The kinds of failure. -/
inductive FailureKind where
  | general
  | lexical
  | grammar
  | evaluation
  | divisionByZero
  | settings
deriving DecidableEq, Repr

/-- A kind and the kinds that it is a special case of, up to the general one. -/
def FailureKind.ancestry : FailureKind → List FailureKind
  | general => [general]
  | divisionByZero => [divisionByZero, evaluation, general]
  | kind => [kind, general]

/-- Why something failed. -/
inductive Cause where
  /-- A token stands where it cannot. -/
  | unexpected (found : Token)
  /-- A group is open and a token other than its end follows. -/
  | unclosed (found : Token)
  /-- A number has an exponent without digits. -/
  | malformed (number : String)
  /-- A number is too large for double precision. -/
  | outOfRange (number : String)
  | divisionByZero
  /-- What stands at the position of a sign is none; it is kept as messages show it. -/
  | unsupportedSign (shown : String)
  /-- What stands at the position of an operator is none; it is kept as messages show it. -/
  | unsupportedOperator (shown : String)
  | unknownLeaf (kind : String)
  /-- A cause in the caller's own words. -/
  | stated (kind : FailureKind) (message : String)
deriving DecidableEq, Repr

namespace Cause

/-- The kind of failure that a cause leads to. -/
def kind : Cause → FailureKind
  | unexpected _ => .grammar
  | unclosed _ => .grammar
  | malformed _ => .lexical
  | outOfRange _ => .lexical
  | divisionByZero => .divisionByZero
  | unsupportedSign _ => .evaluation
  | unsupportedOperator _ => .evaluation
  | unknownLeaf _ => .evaluation
  | stated kind _ => kind

/-- The wording of a cause. -/
def message : Cause → String
  | unexpected found => "unexpected " ++ found.describe
  | unclosed found => "got " ++ found.describe ++ ", want ')'"
  | malformed number => "could not parse the float number " ++ Text.quoted number
  | outOfRange number => "number " ++ number ++ " is out of range"
  | divisionByZero => "division by zero"
  | unsupportedSign shown => "unsupported unary operator: " ++ shown
  | unsupportedOperator shown => "unsupported binary operator: " ++ shown
  | unknownLeaf kind => "Unknown expression type: " ++ kind
  | stated _ message => message

end Cause

/-- What an enclosing construct adds to a failure that leaves it. -/
inductive Crumb where
  /-- The whole text, with the token at which reading stopped. -/
  | wholeText (current : Token)
  /-- The first operand of a chain, with the token at which reading stopped. -/
  | firstOperand (current : Token)
  /-- The right operand of an operator, with the token at which reading stopped. -/
  | rightOperand (op : Operator) (current : Token)
  /-- The operand of a sign at an offset. -/
  | signedOperand (sign : Sign) (offset : Nat)
  /-- A group opened at an offset. -/
  | group (offset : Nat)
  /-- A node evaluated as soon as it was read, with the token that follows it. -/
  | evaluated (node : String) (current : Token)
  /-- A signed node above the one that failed, by the name of its sign. -/
  | underSign (name : String)
  /-- A node with an operator above the one that failed, by the name of its operator. -/
  | underOperator (name : String)
  /-- A remark in the caller's own words. -/
  | remark (text : String)
deriving DecidableEq, Repr

/-- The wording of a crumb. -/
def Crumb.text : Crumb → String
  | wholeText current => "could not parse " ++ current.describe
  | firstOperand current => "could not parse expression in unary " ++ current.describe
  | rightOperand op current =>
    "could not parse right operand of " ++ Text.quoted op.text ++ " at " ++ current.describe
  | signedOperand sign offset =>
    "could not parse operand of unary " ++ Text.quoted sign.text ++ " at offset " ++
      toString offset
  | group offset => "could not parse group opened at offset " ++ toString offset
  | evaluated node current => "could not evaluate " ++ node ++ " before " ++ current.describe
  | underSign name => "evaluation of operand in unary " ++ Text.quoted name ++ " failed"
  | underOperator name => "evaluation of operand in binary " ++ Text.quoted name ++ " failed"
  | remark text => text

/-- A cause with the offset at which it was found and the trail of the constructs around it, the
outermost first. -/
structure Failure where
  cause : Cause
  pos : Option Int := none
  trail : List Crumb := []
deriving DecidableEq, Repr

namespace Failure

/-- A failure found at an offset. -/
def atPos (cause : Cause) (pos : Nat) : Failure := { cause, pos := some pos }

/-- The failure after it left one more construct. -/
def note (f : Failure) (crumb : Crumb) : Failure := { f with trail := crumb :: f.trail }

/-- The kind of a failure. -/
def kind (f : Failure) : FailureKind := f.cause.kind

/-- The trail from the outermost construct inwards and then the cause, divided by colons. -/
def message (f : Failure) : String :=
  String.intercalate ": " (f.trail.map Crumb.text ++ [f.cause.message])

end Failure

end Calculator
