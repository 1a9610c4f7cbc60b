import Calculator.Parsing.Descent

/-!
# Parsing

An expression is parsed either into its tree, to be evaluated later, or straight into its value.
Both run the same descent over the same tokens.
-/

namespace Calculator

/-- How an expression is evaluated: after the whole of it was read, or while it is read. -/
inductive Mode where
  | tree
  | eager
deriving DecidableEq, Repr

namespace Mode

/-- The word for a mode. -/
def text : Mode → String
  | tree => "tree"
  | eager => "eager"

/-- All modes, in the order in which messages name them. -/
def all : List Mode := [tree, eager]

/-- The mode that a word names. -/
def ofText? (s : String) : Option Mode := all.find? fun m => m.text = s

end Mode

/-- Why a text has no expression. -/
inductive ParseFault where
  /-- A failure, with its trail. -/
  | failed (failure : Failure)
  /-- The constructs are nested too deeply. -/
  | tooDeep
deriving DecidableEq, Repr

/-- The fault of a descent that stopped. -/
def Stop.toParseFault : Stop → ParseFault
  | .tooDeep => .tooDeep
  | .failed f _ => .failed f

/-- The tree of an expression. -/
def parse (s : Source) : Except ParseFault Expr :=
  (Descent.wholeText .tree (.ofSource s)).mapError Stop.toParseFault

/-- The value of an expression, as a tree with a single number. -/
def parseEagerly (ops : Arithmetic) (s : Source) : Except ParseFault Expr :=
  match Descent.wholeText (.eager ops) (.ofSource s) with
  | .ok x => .ok (.literal x)
  | .error stop => .error stop.toParseFault

/-- Parse in the given mode. -/
def Mode.parse (ops : Arithmetic) : Mode → Source → Except ParseFault Expr
  | tree, s => Calculator.parse s
  | eager, s => parseEagerly ops s

end Calculator
