import Calculator.Failure

/-!
# Walking a tree

A walk computes something at every node from what it computed at the operands: children before
parents, left before right, until something fails. It is given by three handlers, one for each kind
of node.

Two definitions say what a walk yields. `Expr.fold` is the plain recursion on the tree. `Expr.walk`
keeps its own list of tasks and of results, so that a chain of any length is walked in constant
depth; it is the one that runs. A failure collects one crumb for each node above the one that
failed. A node whose mark gives no name has nothing to put on the trail, and a failure that passes
it is lost to that fault.
-/

namespace Calculator

/-- What ends a walk early. -/
inductive Fault where
  /-- A failure, with its trail. -/
  | failed (failure : Failure)
  /-- A mark was asked for its name and has none. -/
  | unnamedOperator
  /-- A result was taken where none was left. -/
  | missingResult
deriving DecidableEq, Repr

/-- What a walk does at each kind of node. A handler is given its node, part by part, and behind
that the results of the operands. -/
structure Handlers (α : Type) where
  literal : Binary64 → Except Fault α
  unary : Mark Sign → Expr → α → Except Fault α
  binary : Mark Operator → Expr → Expr → α → α → Except Fault α

namespace Fault

/-- A fault that leaves the operand of a signed node. -/
def underSign (mark : Mark Sign) : Fault → Fault
  | .failed f =>
    match mark.name? Sign.text with
    | some name => .failed (f.note (.underSign name))
    | none => .unnamedOperator
  | fault => fault

/-- A fault that leaves an operand of a node with an operator. -/
def underOperator (mark : Mark Operator) : Fault → Fault
  | .failed f =>
    match mark.name? Operator.text with
    | some name => .failed (f.note (.underOperator name))
    | none => .unnamedOperator
  | fault => fault

end Fault

namespace Expr

/-- The fault of a leaf that is no expression. -/
def foreignFault (kind : String) : Fault := .failed { cause := .unknownLeaf kind }

/-- The walk as a recursion on the tree. -/
def fold {α : Type} (h : Handlers α) : Expr → Except Fault α
  | literal x => h.literal x
  | unary m e =>
    match e.fold h with
    | .error fault => .error (fault.underSign m)
    | .ok x => h.unary m e x
  | binary m l r =>
    match l.fold h with
    | .error fault => .error (fault.underOperator m)
    | .ok x =>
      match r.fold h with
      | .error fault => .error (fault.underOperator m)
      | .ok y => h.binary m l r x y
  | foreign kind => .error (foreignFault kind)

/-- What a walk has yet to do: look at a tree, or finish a node whose operands are done. -/
inductive Task where
  | look (e : Expr)
  | finishUnary (mark : Mark Sign) (operand : Expr)
  | finishBinary (mark : Mark Operator) (left right : Expr)
deriving DecidableEq, Repr

/-- A fault on its way out through the nodes that are still to be finished. Trees that were never
looked at are no ancestors and leave no crumb. -/
def Task.escape (fault : Fault) : List Task → Fault
  | [] => fault
  | .look _ :: tasks => escape fault tasks
  | .finishUnary m _ :: tasks => escape (fault.underSign m) tasks
  | .finishBinary m _ _ :: tasks => escape (fault.underOperator m) tasks

/-- The number of steps that a tree takes. -/
def steps : Expr → Nat
  | literal _ => 1
  | unary _ e => e.steps + 2
  | binary _ l r => l.steps + r.steps + 2
  | foreign _ => 1

/-- The number of steps that a task takes. -/
def Task.steps : Task → Nat
  | look e => e.steps
  | finishUnary _ _ => 1
  | finishBinary _ _ _ => 1

/-- The number of steps that a list of tasks takes. -/
def Task.stepsOfAll : List Task → Nat
  | [] => 0
  | task :: tasks => task.steps + stepsOfAll tasks

/-- Work off a list of tasks over a list of results, both with their newest entry first. -/
def work {α : Type} (h : Handlers α) : List Task → List α → Except Fault α
  | [], x :: _ => .ok x
  | [], [] => .error .missingResult
  | .look (literal v) :: tasks, results =>
    match h.literal v with
    | .ok x => work h tasks (x :: results)
    | .error fault => .error (Task.escape fault tasks)
  | .look (unary m e) :: tasks, results =>
    work h (.look e :: .finishUnary m e :: tasks) results
  | .look (binary m l r) :: tasks, results =>
    work h (.look l :: .look r :: .finishBinary m l r :: tasks) results
  | .look (foreign kind) :: tasks, _ => .error (Task.escape (foreignFault kind) tasks)
  | .finishUnary m e :: tasks, x :: results =>
    match h.unary m e x with
    | .ok y => work h tasks (y :: results)
    | .error fault => .error (Task.escape fault tasks)
  | .finishBinary m l r :: tasks, y :: x :: results =>
    match h.binary m l r x y with
    | .ok z => work h tasks (z :: results)
    | .error fault => .error (Task.escape fault tasks)
  | .finishUnary _ _ :: _, [] => .error .missingResult
  | .finishBinary _ _ _ :: _, [] => .error .missingResult
  | .finishBinary _ _ _ :: _, [_] => .error .missingResult
termination_by tasks => Task.stepsOfAll tasks
decreasing_by all_goals simp [Task.stepsOfAll, Task.steps, steps] <;> omega

/-- The walk with its own list of tasks. -/
def walk {α : Type} (h : Handlers α) (e : Expr) : Except Fault α :=
  work h [.look e] []

end Expr

end Calculator
