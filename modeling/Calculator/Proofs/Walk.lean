import Calculator.Expr.Printer
import Calculator.Expr.Value

/-!
# The walk is the fold

`Expr.walk` keeps its own lists of tasks and results; `Expr.fold` is the plain recursion on the
tree. The two give the same answer on every tree, with every triple of handlers: looking at a tree
on top of any other tasks leaves its result on top of the other results, and a fault leaves through
the tasks that are still to be finished.
-/

namespace Calculator.Expr

/-- What becomes of the other tasks once a tree among them came to a result or to a fault. -/
def resume {α : Type} (h : Handlers α) (tasks : List Task) (results : List α) :
    Except Fault α → Except Fault α
  | .ok x => work h tasks (x :: results)
  | .error fault => .error (Task.escape fault tasks)

/-- **One tree among other tasks**: working it off comes to what the fold gives. The tasks below
and the results below are untouched. -/
theorem work_look {α : Type} (h : Handlers α) (e : Expr) (tasks : List Task) (results : List α) :
    work h (.look e :: tasks) results = resume h tasks results (e.fold h) := by
  induction e generalizing tasks results with
  | literal v =>
    rw [work, fold]
    cases h.literal v <;> rfl
  | foreign kind =>
    rw [work, fold]
    rfl
  | unary m e ih =>
    rw [work, ih, fold]
    cases e.fold h with
    | error fault => rfl
    | ok x =>
      show work h (.finishUnary m e :: tasks) (x :: results) =
        resume h tasks results (h.unary m e x)
      rw [work]
      cases h.unary m e x <;> rfl
  | binary m l r ihl ihr =>
    rw [work, ihl, fold]
    cases l.fold h with
    | error fault => rfl
    | ok x =>
      simp only [resume]
      rw [ihr]
      cases r.fold h with
      | error fault => rfl
      | ok y =>
        show work h (.finishBinary m l r :: tasks) (y :: x :: results) =
          resume h tasks results (h.binary m l r x y)
        rw [work]
        cases h.binary m l r x y <;> rfl

/-- The walk with its own lists is the recursion on the tree. -/
theorem walk_eq_fold {α : Type} (h : Handlers α) (e : Expr) : e.walk h = e.fold h := by
  rw [walk, work_look]
  cases e.fold h with
  | error fault => rfl
  | ok x => simp only [resume, work]

/-- A failure of evaluation is a cause, with no trail where it arises. -/
theorem exists_cause_of_mapError {α : Type} {r : Except Cause α} {f : Failure}
    (h : r.mapError Fault.ofCause = .error (.failed f)) :
    ∃ cause, r = .error cause ∧ f = { cause } := by
  cases r with
  | ok x => cases h
  | error cause =>
    cases h
    exact ⟨cause, rfl, rfl⟩

theorem evaluate_eq_fold (ops : Arithmetic) (e : Expr) :
    e.evaluate ops = e.fold (.value ops) :=
  walk_eq_fold _ e

end Calculator.Expr
