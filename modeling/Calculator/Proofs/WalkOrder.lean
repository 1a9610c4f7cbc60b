import Calculator.Proofs.Walk
import Mathlib.Data.List.Forall2

/-!
# In which order a walk calls its handlers

A walk consults its handlers and nothing else decides what it does: `Expr.turn` says what the lists
of tasks and of results ask for next, and does not know the handlers. A run, `Expr.Works`, records
the calls in their order. It has no rule for a result that is missing, so that no list of results is
empty where one is taken, at none of the places that a walk comes to.

The nodes of a tree in post-order, `Expr.visits`, are the other side. A walk that succeeds calls its
handlers once for each node in that order. A walk that fails has called them for the nodes before
the first one that fails by itself, then for that one unless it is a foreign leaf, and for no other.
Between the two stands the recursion with its calls, `Expr.Folds`: it visits the nodes in this
order, and the run makes the same calls.

A handler is given its node and the results of the operands, so that it may do what it likes with
either.
-/

namespace Calculator

/-! ## Calls -/

/-- A call of a handler, with what it is given. -/
inductive Call (α : Type) where
  | literal (x : Binary64)
  | unary (mark : Mark Sign) (operand : Expr) (x : α)
  | binary (mark : Mark Operator) (left right : Expr) (x y : α)

/-- What handlers answer to a call. -/
def Handlers.answer {α : Type} (h : Handlers α) : Call α → Except Fault α
  | .literal x => h.literal x
  | .unary m e x => h.unary m e x
  | .binary m l r x y => h.binary m l r x y

/-- A fault with more of a trail. Only failures have one. -/
def Fault.onTrail (trail : List Crumb) : Fault → Fault
  | .failed f => .failed { f with trail := trail ++ f.trail }
  | fault => fault

namespace Expr

variable {α : Type}

/-- What lists of tasks and of results ask for. -/
inductive Turn (α : Type) where
  /-- All is done. -/
  | done (x : α)
  /-- A node gives way to its operands. -/
  | opened (tasks : List Task)
  /-- A handler is called, and its answer goes on top of the results. -/
  | called (call : Call α) (tasks : List Task) (results : List α)
  /-- A leaf is no expression. -/
  | foreign (kind : String) (tasks : List Task)
  /-- A result is to be taken where none is left. -/
  | missing

/-- What is next, whatever the handlers are. -/
def turn : List Task → List α → Turn α
  | [], x :: _ => .done x
  | [], [] => .missing
  | .look (literal v) :: tasks, results => .called (.literal v) tasks results
  | .look (unary m e) :: tasks, _ => .opened (.look e :: .finishUnary m e :: tasks)
  | .look (binary m l r) :: tasks, _ =>
    .opened (.look l :: .look r :: .finishBinary m l r :: tasks)
  | .look (foreign kind) :: tasks, _ => .foreign kind tasks
  | .finishUnary m e :: tasks, x :: results => .called (.unary m e x) tasks results
  | .finishBinary m l r :: tasks, y :: x :: results => .called (.binary m l r x y) tasks results
  | .finishUnary _ _ :: _, [] => .missing
  | .finishBinary _ _ _ :: _, [] => .missing
  | .finishBinary _ _ _ :: _, [_] => .missing

/-- **One step of a walk.** -/
theorem work_eq_turn (h : Handlers α) (tasks : List Task) (results : List α) :
    work h tasks results =
      match turn tasks results with
      | .done x => .ok x
      | .opened tasks => work h tasks results
      | .called call tasks results =>
        match h.answer call with
        | .ok x => work h tasks (x :: results)
        | .error fault => .error (Task.escape fault tasks)
      | .foreign kind tasks => .error (Task.escape (foreignFault kind) tasks)
      | .missing => .error .missingResult := by
  cases tasks with
  | nil => cases results <;> rw [work] <;> rfl
  | cons task tasks =>
    cases task with
    | look e => cases e <;> rw [work] <;> rfl
    | finishUnary m e => cases results <;> rw [work] <;> rfl
    | finishBinary m l r =>
      cases results with
      | nil => rw [work]; rfl
      | cons y results => cases results <;> rw [work] <;> rfl

/-- Working off lists of tasks and of results calls the handlers with `calls`, in this order, and
ends with the given outcome. -/
inductive Works (h : Handlers α) :
    List Task → List α → List (Call α) → Except Fault α → Prop where
  | done {tasks : List Task} {results : List α} {x : α} (ht : turn tasks results = .done x) :
      Works h tasks results [] (.ok x)
  | opened {tasks tasks' : List Task} {results : List α} {calls : List (Call α)}
      {outcome : Except Fault α} (ht : turn tasks results = .opened tasks')
      (hw : Works h tasks' results calls outcome) : Works h tasks results calls outcome
  | answered {tasks tasks' : List Task} {results results' : List α} {call : Call α}
      {calls : List (Call α)} {x : α} {outcome : Except Fault α}
      (ht : turn tasks results = .called call tasks' results') (ha : h.answer call = .ok x)
      (hw : Works h tasks' (x :: results') calls outcome) :
      Works h tasks results (call :: calls) outcome
  | refused {tasks tasks' : List Task} {results results' : List α} {call : Call α}
      {fault : Fault} (ht : turn tasks results = .called call tasks' results')
      (ha : h.answer call = .error fault) :
      Works h tasks results [call] (.error (Task.escape fault tasks'))
  | foreign {tasks tasks' : List Task} {results : List α} {kind : String}
      (ht : turn tasks results = .foreign kind tasks') :
      Works h tasks results [] (.error (Task.escape (foreignFault kind) tasks'))

variable {h : Handlers α} {tasks : List Task} {results : List α} {made made' : List (Call α)}
  {outcome outcome' : Except Fault α}

/-- The outcome of a run is what the walk computes. -/
theorem Works.work_eq (hw : Works h tasks results made outcome) :
    work h tasks results = outcome := by
  induction hw with
  | done ht => rw [work_eq_turn, ht]
  | opened ht _ ih => rw [work_eq_turn, ht, ← ih]
  | answered ht ha _ ih =>
    rw [work_eq_turn, ht]
    simp only [ha, ih]
  | refused ht ha =>
    rw [work_eq_turn, ht]
    simp only [ha]
  | foreign ht => rw [work_eq_turn, ht]

/-- There is only one run. -/
theorem Works.unique (hw : Works h tasks results made outcome)
    (hw' : Works h tasks results made' outcome') : made = made' ∧ outcome = outcome' := by
  refine ⟨?_, hw.work_eq.symm.trans hw'.work_eq⟩
  induction hw generalizing made' outcome' with
  | done ht =>
    cases hw' <;> simp_all
  | opened ht _ ih =>
    cases hw' with
    | opened ht' hw' =>
      cases ht.symm.trans ht'
      exact ih hw'
    | _ => simp_all
  | answered ht ha _ ih =>
    cases hw' with
    | answered ht' ha' hw' =>
      cases ht.symm.trans ht'
      cases ha.symm.trans ha'
      rw [ih hw']
    | _ => simp_all
  | refused ht ha =>
    cases hw' <;> simp_all
  | foreign ht =>
    cases hw' <;> simp_all

/-- Handlers with the same answers to the calls of a run have the same run. -/
theorem Works.congr {h' : Handlers α} (hw : Works h tasks results made outcome)
    (heq : ∀ call ∈ made, h'.answer call = h.answer call) :
    Works h' tasks results made outcome := by
  induction hw with
  | done ht => exact .done ht
  | opened ht _ ih => exact .opened ht (ih heq)
  | answered ht ha _ ih =>
    refine .answered ht ?_ (ih fun call hc => heq call (List.mem_cons_of_mem _ hc))
    rw [heq _ List.mem_cons_self, ha]
  | refused ht ha =>
    refine .refused ht ?_
    rw [heq _ List.mem_cons_self, ha]
  | foreign ht => exact .foreign ht

/-! ## Nodes in post-order -/

/-- A node above another one. -/
inductive Ancestor where
  | signed (mark : Mark Sign)
  | joined (mark : Mark Operator)
deriving DecidableEq, Repr

namespace Ancestor

/-- Whether a node above has an operator of its kind. -/
def Supported : Ancestor → Prop
  | signed (.known _) => True
  | joined (.known _) => True
  | _ => False

/-- What a node above adds to a trail: the name of its sign or of its operator, if that has one. -/
def crumb? : Ancestor → Option Crumb
  | signed m => (m.name? Sign.text).map .underSign
  | joined m => (m.name? Operator.text).map .underOperator

/-- Whether a node above has a name to put on a trail. -/
def Named (a : Ancestor) : Prop := a.crumb?.isSome = true

instance (a : Ancestor) : Decidable a.Named := inferInstanceAs (Decidable (_ = true))

theorem named_iff {a : Ancestor} : a.Named ↔ ∃ crumb, a.crumb? = some crumb :=
  Option.isSome_iff_exists

/-- Operators of the right kind have names. -/
theorem Supported.named {a : Ancestor} (h : a.Supported) : a.Named := by
  cases a with
  | signed m =>
    cases m with
    | known sign => rfl
    | other stray => exact h.elim
  | joined m =>
    cases m with
    | known op => rfl
    | other stray => exact h.elim

/-- A fault that leaves an operand of the node. -/
def leave : Ancestor → Fault → Fault
  | signed m, fault => fault.underSign m
  | joined m, fault => fault.underOperator m

/-- A fault that leaves all nodes above, the nearest one first. -/
def leaveAll : List Ancestor → Fault → Fault
  | [], fault => fault
  | a :: above, fault => leaveAll above (a.leave fault)

theorem leaveAll_append (above : List Ancestor) (a : Ancestor) (fault : Fault) :
    leaveAll (above ++ [a]) fault = a.leave (leaveAll above fault) := by
  induction above generalizing fault with
  | nil => rfl
  | cons b above ih => exact ih (b.leave fault)

/-- A failure takes the crumb of a node that it leaves. -/
theorem leave_of_crumb {a : Ancestor} {crumb : Crumb} (h : a.crumb? = some crumb) (f : Failure) :
    a.leave (.failed f) = .failed (f.note crumb) := by
  cases a with
  | signed m =>
    obtain ⟨name, hname, rfl⟩ := Option.map_eq_some_iff.mp h
    simp only [leave, Fault.underSign, hname]
  | joined m =>
    obtain ⟨name, hname, rfl⟩ := Option.map_eq_some_iff.mp h
    simp only [leave, Fault.underOperator, hname]

/-- A failure does not leave a node without a name. -/
theorem leave_of_not_named {a : Ancestor} (h : ¬ a.Named) (f : Failure) :
    a.leave (.failed f) = .unnamedOperator := by
  have hnone : a.crumb? = none := Option.not_isSome_iff_eq_none.mp h
  cases a with
  | signed m => simp only [leave, Fault.underSign, Option.map_eq_none_iff.mp hnone]
  | joined m => simp only [leave, Fault.underOperator, Option.map_eq_none_iff.mp hnone]

/-- A failure that left a node has the cause that it had below. -/
theorem cause_of_leave {a : Ancestor} {fault : Fault} {f : Failure}
    (h : a.leave fault = .failed f) : ∃ g, fault = .failed g ∧ g.cause = f.cause := by
  cases fault with
  | unnamedOperator => cases a <;> cases h
  | missingResult => cases a <;> cases h
  | failed g =>
    refine ⟨g, rfl, ?_⟩
    by_cases hnamed : a.Named
    · obtain ⟨crumb, hcrumb⟩ := named_iff.mp hnamed
      rw [leave_of_crumb hcrumb] at h
      cases h
      rfl
    · rw [leave_of_not_named hnamed] at h
      cases h

/-- A node with a name leaves a crumb. -/
theorem exists_leave_eq {a : Ancestor} (ha : a.Named) (fault : Fault) :
    ∃ crumb, a.leave fault = fault.onTrail [crumb] := by
  obtain ⟨crumb, hcrumb⟩ := named_iff.mp ha
  refine ⟨crumb, ?_⟩
  cases fault with
  | failed f => exact leave_of_crumb hcrumb f
  | unnamedOperator => cases a <;> rfl
  | missingResult => cases a <;> rfl

/-- Nodes with names add to the trail of a failure and change nothing else of it. -/
theorem exists_leaveAll_eq {above : List Ancestor} (h : ∀ a ∈ above, a.Named) (fault : Fault) :
    ∃ trail, leaveAll above fault = fault.onTrail trail := by
  induction above generalizing fault with
  | nil => exact ⟨[], by cases fault <;> rfl⟩
  | cons a above ih =>
    obtain ⟨crumb, hcrumb⟩ := exists_leave_eq (h a List.mem_cons_self) fault
    obtain ⟨trail, htrail⟩ := ih (fun b hb => h b (List.mem_cons_of_mem a hb)) (a.leave fault)
    refine ⟨trail ++ [crumb], ?_⟩
    rw [leaveAll, htrail, hcrumb]
    cases fault <;> simp [Fault.onTrail]

end Ancestor

/-- A node as a part of a greater tree, under one more node. -/
def under (a : Ancestor) (visit : Expr × List Ancestor) : Expr × List Ancestor :=
  (visit.1, visit.2 ++ [a])

/-- The nodes of a tree, operands before their node and left before right. Each comes with the nodes
above it, the nearest one first. -/
def visits : Expr → List (Expr × List Ancestor)
  | literal x => [(literal x, [])]
  | unary m e => e.visits.map (under (.signed m)) ++ [(unary m e, [])]
  | binary m l r =>
    l.visits.map (under (.joined m)) ++ r.visits.map (under (.joined m)) ++ [(binary m l r, [])]
  | foreign kind => [(foreign kind, [])]

/-- The call that is due at a node whose operands came to results. -/
inductive Asks (h : Handlers α) : Expr → Call α → Prop where
  | literal (x : Binary64) : Asks h (literal x) (.literal x)
  | unary {m : Mark Sign} {e : Expr} {x : α} (he : e.fold h = .ok x) :
      Asks h (unary m e) (.unary m e x)
  | binary {m : Mark Operator} {l r : Expr} {x y : α} (hl : l.fold h = .ok x)
      (hr : r.fold h = .ok y) : Asks h (binary m l r) (.binary m l r x y)

/-- A node fails by itself: with its handler, which is called, or because it is no expression. -/
inductive Fails (h : Handlers α) : Expr → List (Call α) → Fault → Prop where
  | refused {node : Expr} {call : Call α} {fault : Fault} (ha : Asks h node call)
      (hf : h.answer call = .error fault) : Fails h node [call] fault
  | foreign (kind : String) : Fails h (foreign kind) [] (foreignFault kind)

/-- The handlers are called with `made` for the given nodes, one after the other, and each of the
nodes comes to a result. -/
def Passes (h : Handlers α) (nodes : List (Expr × List Ancestor)) (made : List (Call α)) : Prop :=
  List.Forall₂ (fun visit call => Asks h visit.1 call ∧ ∃ x, h.answer call = .ok x) nodes made

section Order

variable {e : Expr} {v w : List (Expr × List Ancestor)} {c d : List (Call α)} {fault : Fault}

theorem Passes.under (hp : Passes h v c) (a : Ancestor) : Passes h (v.map (under a)) c :=
  List.forall₂_map_left_iff.mpr hp

theorem Passes.append (hv : Passes h v c) (hw : Passes h w d) : Passes h (v ++ w) (c ++ d) :=
  List.rel_append hv hw

/-- The first of the nodes that fails by itself, with the calls up to it and the fault that comes of
it. -/
inductive FailsFirst (h : Handlers α) :
    List (Expr × List Ancestor) → List (Call α) → Fault → Prop where
  | mk {before after : List (Expr × List Ancestor)} {node : Expr} {above : List Ancestor}
      {done last : List (Call α)} {fault : Fault} (hb : Passes h before done)
      (hn : Fails h node last fault) :
      FailsFirst h (before ++ (node, above) :: after) (done ++ last)
        (Ancestor.leaveAll above fault)

theorem FailsFirst.exists (hf : FailsFirst h v c fault) :
    ∃ before node above after done last fault', v = before ++ (node, above) :: after ∧
      Passes h before done ∧ Fails h node last fault' ∧ c = done ++ last ∧
      fault = Ancestor.leaveAll above fault' := by
  obtain ⟨hb, hn⟩ := hf
  exact ⟨_, _, _, _, _, _, _, rfl, hb, hn, rfl, rfl⟩

/-- What fails first among the nodes of an operand. -/
theorem FailsFirst.under (hf : FailsFirst h v c fault) (a : Ancestor) :
    FailsFirst h (v.map (under a)) c (a.leave fault) := by
  obtain ⟨hb, hn⟩ := hf
  rw [List.map_append, List.map_cons, ← Ancestor.leaveAll_append]
  exact .mk (hb.under a) hn

/-- Later nodes do not matter. -/
theorem FailsFirst.append (hf : FailsFirst h v c fault) (w : List (Expr × List Ancestor)) :
    FailsFirst h (v ++ w) c fault := by
  obtain ⟨hb, hn⟩ := hf
  rw [List.append_assoc, List.cons_append]
  exact .mk hb hn

/-- Earlier nodes have to come to results. -/
theorem Passes.failsFirst (hp : Passes h v c) (hf : FailsFirst h w d fault) :
    FailsFirst h (v ++ w) (c ++ d) fault := by
  obtain ⟨hb, hn⟩ := hf
  rw [← List.append_assoc, ← List.append_assoc]
  exact .mk (hp.append hb) hn

/-- The handlers are called for all of the nodes or up to the first one that fails by itself,
according to the outcome. -/
def Visited (h : Handlers α) (nodes : List (Expr × List Ancestor)) (made : List (Call α)) :
    Except Fault α → Prop
  | .ok _ => Passes h nodes made
  | .error fault => FailsFirst h nodes made fault

theorem Asks.visited {call : Call α} (ha : Asks h e call) :
    Visited h [(e, [])] [call] (h.answer call) := by
  cases hx : h.answer call with
  | ok x => exact .cons ⟨ha, x, hx⟩ .nil
  | error fault => exact FailsFirst.mk .nil (.refused ha hx)

theorem Passes.visited {outcome : Except Fault α} (hp : Passes h v c) (hw : Visited h w d outcome) :
    Visited h (v ++ w) (c ++ d) outcome := by
  cases outcome with
  | ok x => exact hp.append hw
  | error fault => exact hp.failsFirst hw

end Order

/-! ## The recursion -/

/-- The recursion on a tree calls the handlers with `made` and comes to the given outcome. -/
inductive Folds (h : Handlers α) : Expr → List (Call α) → Except Fault α → Prop where
  | literal (v : Binary64) : Folds h (literal v) [.literal v] (h.literal v)
  | foreign (kind : String) : Folds h (foreign kind) [] (.error (foreignFault kind))
  | unary {m : Mark Sign} {e : Expr} {made : List (Call α)} {x : α}
      (he : Folds h e made (.ok x)) :
      Folds h (unary m e) (made ++ [.unary m e x]) (h.unary m e x)
  | unaryFails {m : Mark Sign} {e : Expr} {made : List (Call α)} {fault : Fault}
      (he : Folds h e made (.error fault)) :
      Folds h (unary m e) made (.error (fault.underSign m))
  | binary {m : Mark Operator} {l r : Expr} {made made' : List (Call α)} {x y : α}
      (hl : Folds h l made (.ok x)) (hr : Folds h r made' (.ok y)) :
      Folds h (binary m l r) (made ++ made' ++ [.binary m l r x y]) (h.binary m l r x y)
  | leftFails {m : Mark Operator} {l r : Expr} {made : List (Call α)} {fault : Fault}
      (hl : Folds h l made (.error fault)) :
      Folds h (binary m l r) made (.error (fault.underOperator m))
  | rightFails {m : Mark Operator} {l r : Expr} {made made' : List (Call α)} {x : α}
      {fault : Fault} (hl : Folds h l made (.ok x)) (hr : Folds h r made' (.error fault)) :
      Folds h (binary m l r) (made ++ made') (.error (fault.underOperator m))

theorem exists_folds (h : Handlers α) (e : Expr) : ∃ made, Folds h e made (e.fold h) := by
  induction e with
  | literal v => exact ⟨_, .literal v⟩
  | foreign kind => exact ⟨_, .foreign kind⟩
  | unary m e ih =>
    obtain ⟨made, he⟩ := ih
    rw [fold]
    cases hx : e.fold h with
    | error fault => exact ⟨_, .unaryFails (hx ▸ he)⟩
    | ok x => exact ⟨_, .unary (hx ▸ he)⟩
  | binary m l r ihl ihr =>
    obtain ⟨made, hl⟩ := ihl
    obtain ⟨made', hr⟩ := ihr
    rw [fold]
    cases hx : l.fold h with
    | error fault => exact ⟨_, .leftFails (hx ▸ hl)⟩
    | ok x =>
      cases hy : r.fold h with
      | error fault => exact ⟨_, .rightFails (hx ▸ hl) (hy ▸ hr)⟩
      | ok y => exact ⟨_, .binary (hx ▸ hl) (hy ▸ hr)⟩

theorem Folds.fold_eq {e : Expr} (hf : Folds h e made outcome) : e.fold h = outcome := by
  induction hf with
  | literal v => rfl
  | foreign kind => rfl
  | unary _ ih => simp only [fold, ih]
  | unaryFails _ ih => simp only [fold, ih]
  | binary _ _ ihl ihr => simp only [fold, ihl, ihr]
  | leftFails _ ihl => simp only [fold, ihl]
  | rightFails _ _ ihl ihr => simp only [fold, ihl, ihr]

/-- **The recursion goes in post-order.** -/
theorem Folds.visited {e : Expr} (hf : Folds h e made outcome) :
    Visited h e.visits made outcome := by
  induction hf with
  | literal v => exact (Asks.literal v).visited
  | foreign kind => exact FailsFirst.mk .nil (.foreign kind)
  | @unary m e made x he ih =>
    have hp : Passes h e.visits made := ih
    exact (hp.under (.signed m)).visited (Asks.unary he.fold_eq).visited
  | @unaryFails m e made fault _ ih =>
    have hf : FailsFirst h e.visits made fault := ih
    exact (hf.under (.signed m)).append _
  | @binary m l r made made' x y hl hr ihl ihr =>
    have hp : Passes h l.visits made := ihl
    have hq : Passes h r.visits made' := ihr
    exact ((hp.under (.joined m)).append (hq.under (.joined m))).visited
      (Asks.binary hl.fold_eq hr.fold_eq).visited
  | @leftFails m l r made fault _ ihl =>
    have hf : FailsFirst h l.visits made fault := ihl
    show FailsFirst h _ made ((Ancestor.joined m).leave fault)
    rw [visits, List.append_assoc]
    exact (hf.under (.joined m)).append _
  | @rightFails m l r made made' x fault _ _ ihl ihr =>
    have hp : Passes h l.visits made := ihl
    have hf : FailsFirst h r.visits made' fault := ihr
    exact ((hp.under (.joined m)).failsFirst (hf.under (.joined m))).append _

/-! ## The run makes the calls of the recursion -/

/-- How a run goes on with the other tasks, once a tree among them came to a result or to a fault. -/
def Resumes (h : Handlers α) (tasks : List Task) (results : List α) :
    Except Fault α → List (Call α) → Except Fault α → Prop
  | .ok x, made, outcome => Works h tasks (x :: results) made outcome
  | .error fault, made, outcome => made = [] ∧ outcome = .error (Task.escape fault tasks)

theorem Works.called {tasks' : List Task} {results' : List α} {call : Call α}
    (ht : turn tasks results = .called call tasks' results')
    (hr : Resumes h tasks' results' (h.answer call) made outcome) :
    Works h tasks results (call :: made) outcome := by
  cases hx : h.answer call with
  | ok x =>
    rw [hx] at hr
    exact .answered ht hx hr
  | error fault =>
    rw [hx] at hr
    obtain ⟨rfl, rfl⟩ := hr
    exact .refused ht hx

/-- **One tree among other tasks**: its calls come first, then those of the other tasks, unless the
tree fails. -/
theorem Folds.works {e : Expr} {folded : Except Fault α} (hf : Folds h e made folded)
    (hr : Resumes h tasks results folded made' outcome) :
    Works h (.look e :: tasks) results (made ++ made') outcome := by
  induction hf generalizing tasks results made' outcome with
  | literal v => exact .called rfl hr
  | foreign kind =>
    obtain ⟨rfl, rfl⟩ := hr
    exact .foreign rfl
  | unary _ ih =>
    rw [List.append_assoc]
    exact .opened rfl (ih (.called rfl hr))
  | unaryFails _ ih => exact .opened rfl (ih hr)
  | binary _ _ ihl ihr =>
    rw [List.append_assoc, List.append_assoc]
    exact .opened rfl (ihl (ihr (.called rfl hr)))
  | leftFails _ ihl => exact .opened rfl (ihl hr)
  | rightFails _ _ ihl ihr =>
    rw [List.append_assoc]
    exact .opened rfl (ihl (ihr hr))

/-- The lists of tasks and of results that a walk comes to. -/
inductive Reached (h : Handlers α) (e : Expr) : List Task → List α → Prop where
  | start : Reached h e [.look e] []
  | opened {tasks tasks' : List Task} {results : List α} (hr : Reached h e tasks results)
      (ht : turn tasks results = .opened tasks') : Reached h e tasks' results
  | answered {tasks tasks' : List Task} {results results' : List α} {call : Call α} {x : α}
      (hr : Reached h e tasks results) (ht : turn tasks results = .called call tasks' results')
      (ha : h.answer call = .ok x) : Reached h e tasks' (x :: results')

/-- The run of a walk, with the calls of the recursion. -/
theorem exists_works (h : Handlers α) (e : Expr) :
    ∃ made, Folds h e made (e.walk h) ∧ Works h [.look e] [] made (e.walk h) := by
  obtain ⟨made, hf⟩ := exists_folds h e
  have hr : Resumes h [] [] (e.fold h) [] (e.fold h) := by
    cases e.fold h with
    | ok x => exact .done rfl
    | error fault => exact ⟨rfl, rfl⟩
  rw [walk_eq_fold]
  exact ⟨made, hf, by simpa using hf.works hr⟩

/-- A run goes on from all that a walk comes to. -/
theorem Reached.works {e : Expr} (hr : Reached h e tasks results) :
    ∃ made outcome, Works h tasks results made outcome := by
  induction hr with
  | start =>
    obtain ⟨made, -, hw⟩ := exists_works h e
    exact ⟨made, e.walk h, hw⟩
  | opened _ ht ih =>
    obtain ⟨made, outcome, hw⟩ := ih
    cases hw with
    | opened ht' hw =>
      cases ht.symm.trans ht'
      exact ⟨_, _, hw⟩
    | _ => simp_all
  | answered _ ht ha ih =>
    obtain ⟨made, outcome, hw⟩ := ih
    cases hw with
    | answered ht' ha' hw =>
      cases ht.symm.trans ht'
      cases ha.symm.trans ha'
      exact ⟨_, _, hw⟩
    | _ => simp_all

theorem Works.turn_ne_missing (hw : Works h tasks results made outcome) :
    turn tasks results ≠ .missing := by
  intro hm
  cases hw <;> simp_all

/-- **The walk is the fold**, whatever the tree and the handlers. It never takes a result where none
is left, its run is finite, and it calls the handlers in post-order: for every node, or up to the
first one that fails by itself, whose fault it ends with. What the handlers would answer to any
other call does not matter. The nodes above the one that fails add to the trail alone, unless one of
them has no name. -/
theorem walk_in_postorder (h : Handlers α) (e : Expr) :
    e.walk h = e.fold h ∧
    (∀ tasks results, Reached h e tasks results → turn tasks results ≠ .missing) ∧
    (∃ made, Works h [.look e] [] made (e.walk h) ∧
      (∀ made' outcome, Works h [.look e] [] made' outcome →
        made' = made ∧ outcome = e.walk h) ∧
      (∀ h' : Handlers α, (∀ call ∈ made, h'.answer call = h.answer call) →
        e.walk h' = e.walk h) ∧
      ((∃ x, e.walk h = .ok x ∧ Passes h e.visits made) ∨
        ∃ before node above after done last fault,
          e.visits = before ++ (node, above) :: after ∧ Passes h before done ∧
          Fails h node last fault ∧ made = done ++ last ∧
          e.walk h = .error (Ancestor.leaveAll above fault) ∧
          ((∀ a ∈ above, a.Named) → ∃ trail, e.walk h = .error (fault.onTrail trail)))) ∧
    (∀ ops, e.evaluate ops = e.fold (.value ops)) ∧
    e.format = (e.fold .phrase).map Phrase.text ∧ e.size = e.fold .count := by
  obtain ⟨made, hfolds, hworks⟩ := exists_works h e
  refine ⟨walk_eq_fold h e, ?_, ⟨made, hworks, ?_, ?_, ?_⟩,
    fun ops => evaluate_eq_fold ops e, by rw [format, walk_eq_fold], walk_eq_fold _ e⟩
  · intro tasks results hr
    obtain ⟨made, outcome, hw⟩ := hr.works
    exact hw.turn_ne_missing
  · intro made' outcome hw
    exact hw.unique hworks
  · intro h' heq
    exact (hworks.congr heq).work_eq
  · have hvisited := hfolds.visited
    cases hx : e.walk h with
    | ok x =>
      rw [hx] at hvisited
      exact .inl ⟨x, rfl, hvisited⟩
    | error fault =>
      rw [hx] at hvisited
      obtain ⟨before, node, above, after, done, last, fault', hv, hb, hn, hc, rfl⟩ :=
        FailsFirst.exists hvisited
      refine .inr ⟨before, node, above, after, done, last, fault', hv, hb, hn, hc, rfl, ?_⟩
      intro ha
      obtain ⟨trail, htrail⟩ := Ancestor.exists_leaveAll_eq ha fault'
      exact ⟨trail, congrArg _ htrail⟩

end Expr

end Calculator
