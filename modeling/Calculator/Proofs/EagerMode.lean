import Calculator.Parsing.Parse
import Calculator.Proofs.Walk
import Mathlib.Control.Monad.Basic

/-!
# Eager mode agrees with tree mode

Both modes run one descent, with different builders, over the same tokens. This module relates the
two runs step by step: as long as every node so far has a value, the eager run holds the value of
the tree that the other run holds, at the same cursor. Once a node has none, because a divisor is
zero, the eager run has stopped there, and the tree that the other run goes on to build keeps that
node inside, so that evaluating it later comes to the same division.

The relation is `Agree`; `Descent.agree` carries it through the four rules by induction on the
budget. Nothing is assumed of the four operations on numbers.
-/

namespace Calculator.Descent

/-! ## Trees without a value -/

/-- Evaluating the tree comes to a division by zero. -/
def Undefined (ops : Arithmetic) (e : Expr) : Prop :=
  ∃ f : Failure, e.fold (.value ops) = .error (.failed f) ∧ f.cause = .divisionByZero

/-- A rule that stopped at a division by zero. -/
def DividesByZero {β : Type} (r : Except Stop β) : Prop :=
  ∃ f current, r = .error (.failed f current) ∧ f.cause = .divisionByZero

/-- Division is the only operation that fails, and zero the only divisor. -/
theorem cause_of_apply_error {ops : Arithmetic} {op : Operator} {x y : Binary64} {cause : Cause}
    (h : op.apply ops x y = .error cause) : cause = .divisionByZero := by
  cases op with
  | add => cases h
  | sub => cases h
  | mul => cases h
  | div =>
    simp only [Operator.apply] at h
    split at h
    · cases h
      rfl
    · cases h

theorem value_binary (ops : Arithmetic) (op : Operator) (l r : Expr) (x y : Binary64) :
    (Handlers.value ops).binary (.known op) l r x y =
      (op.apply ops x y).mapError Fault.ofCause := rfl

section Undefined

variable {ops : Arithmetic} {l r e : Expr} {x y z : Binary64}

theorem Undefined.unary (h : Undefined ops e) (sign : Sign) :
    Undefined ops (.unary (.known sign) e) := by
  obtain ⟨f, hf, hc⟩ := h
  refine ⟨f.note (.underSign sign.text), ?_, hc⟩
  simp [Expr.fold, hf, Fault.underSign]

theorem Undefined.left (h : Undefined ops l) (op : Operator) (r : Expr) :
    Undefined ops (.binary (.known op) l r) := by
  obtain ⟨f, hf, hc⟩ := h
  refine ⟨f.note (.underOperator op.text), ?_, hc⟩
  simp [Expr.fold, hf, Fault.underOperator]

/-- The left operand is evaluated first, so it must have a value for the right one to matter. -/
theorem Undefined.right (hl : l.fold (.value ops) = .ok x) (h : Undefined ops r) (op : Operator) :
    Undefined ops (.binary (.known op) l r) := by
  obtain ⟨f, hf, hc⟩ := h
  refine ⟨f.note (.underOperator op.text), ?_, hc⟩
  simp [Expr.fold, hl, hf, Fault.underOperator]

/-- The node itself may be the one that fails. -/
theorem Undefined.node (hl : l.fold (.value ops) = .ok x) (hr : r.fold (.value ops) = .ok y)
    {op : Operator} {cause : Cause} (h : op.apply ops x y = .error cause) :
    Undefined ops (.binary (.known op) l r) := by
  refine ⟨{ cause }, ?_, cause_of_apply_error h⟩
  simp only [Expr.fold, hl, hr, value_binary, h]
  rfl

theorem fold_binary (hl : l.fold (.value ops) = .ok x) (hr : r.fold (.value ops) = .ok y)
    {op : Operator} (h : op.apply ops x y = .ok z) :
    (Expr.binary (.known op) l r).fold (.value ops) = .ok z := by
  simp only [Expr.fold, hl, hr, value_binary, h]
  rfl

theorem fold_unary (h : e.fold (.value ops) = .ok x) (sign : Sign) :
    (Expr.unary (.known sign) e).fold (.value ops) = .ok (sign.apply x) := by
  simp only [Expr.fold, h]
  rfl

end Undefined

theorem DividesByZero.noting {β : Type} {r : Except Stop β} (h : DividesByZero r)
    (crumb : Token → Crumb) : DividesByZero (noting crumb r) := by
  obtain ⟨f, current, rfl, hc⟩ := h
  exact ⟨f.note (crumb current), current, rfl, hc⟩

/-- A node without a value stops the eager builder. -/
theorem built_dividesByZero {ops : Arithmetic} {op : Operator} {x y : Binary64} {cause : Cause}
    (h : op.apply ops x y = .error cause) (c : Cursor) :
    DividesByZero (built c ((Builder.eager ops).binary c.current op x y)) := by
  let node := Phrase.binary op (.literal x) (.literal y)
  refine ⟨{ cause : Failure }.note (.evaluated node.text c.current), c.current, ?_,
    cause_of_apply_error h⟩
  simp only [Builder.eager, h, built, node]

/-! ## The relation between the two runs -/

/-- What a rule gives in tree mode and what it gives in eager mode. -/
inductive Agree (ops : Arithmetic) : Step Expr → Step Binary64 → Prop where
  /-- Both go on, from the same place, with a tree and its value. -/
  | value {e : Expr} {x : Binary64} {c : Cursor} (h : e.fold (.value ops) = .ok x) :
      Agree ops (.ok (e, c)) (.ok (x, c))
  /-- The tree has no value, and the eager run has stopped at the division. -/
  | undefined {e : Expr} {c : Cursor} {r : Step Binary64} (h : Undefined ops e)
      (hr : DividesByZero r) : Agree ops (.ok (e, c)) r
  /-- Both stop alike. -/
  | stop {s : Stop} : Agree ops (.error s) (.error s)
  /-- The eager run stopped at a division before the other one stopped. -/
  | sooner {s : Stop} {r : Step Binary64} (hr : DividesByZero r) : Agree ops (.error s) r

variable {ops : Arithmetic}

theorem Agree.noting {r : Step Expr} {r' : Step Binary64} (h : Agree ops r r')
    (crumb : Token → Crumb) : Agree ops (noting crumb r) (noting crumb r') := by
  cases h with
  | value h => exact .value h
  | undefined h hr => exact .undefined h (hr.noting crumb)
  | @stop s => cases s <;> exact .stop
  | @sooner s _ hr => cases s <;> exact .sooner (hr.noting crumb)

/-- **One step of both runs**: they agree behind it if they agree where both went on, and if the
tree run, going on alone, keeps a node without a value inside its tree. -/
theorem Agree.andThen {r : Step Expr} {r' : Step Binary64} (h : Agree ops r r')
    {next : Expr → Cursor → Step Expr} {next' : Binary64 → Cursor → Step Binary64}
    (hvalue : ∀ e x c, e.fold (.value ops) = .ok x → Agree ops (next e c) (next' x c))
    (hundefined : ∀ e c e' c', Undefined ops e → next e c = .ok (e', c') → Undefined ops e') :
    Agree ops (andThen r next) (andThen r' next') := by
  cases h with
  | stop => exact .stop
  | sooner hr =>
    obtain ⟨f, current, rfl, hc⟩ := hr
    exact .sooner ⟨f, current, rfl, hc⟩
  | value he => exact hvalue _ _ _ he
  | @undefined e c _ he hr =>
    obtain ⟨f, current, rfl, hc⟩ := hr
    rw [andThen_ok, andThen_error]
    cases hn : next e c with
    | error s => exact .sooner ⟨f, current, rfl, hc⟩
    | ok p =>
      obtain ⟨e', c'⟩ := p
      exact .undefined (hundefined e c e' c' he hn) ⟨f, current, rfl, hc⟩

/-- What the builders make of an operator whose operands have values. -/
theorem built_agree {l r : Expr} {x y : Binary64} (hl : l.fold (.value ops) = .ok x)
    (hr : r.fold (.value ops) = .ok y) (op : Operator) (c : Cursor) :
    Agree ops (built c (Builder.tree.binary c.current op l r))
      (built c ((Builder.eager ops).binary c.current op x y)) := by
  cases ha : op.apply ops x y with
  | error cause => exact .undefined (Undefined.node hl hr ha) (built_dividesByZero ha c)
  | ok z =>
    simp only [Builder.eager, ha]
    exact .value (fold_binary hl hr ha)

/-! ## Chains

A chain gathers its operators from the left, so what has been gathered stays the leftmost part of
the tree: that is why a node without a value is never lost. -/

theorem gather_undefined {right : Cursor → Step Expr} {strength : Nat} (links : List Token)
    {left e : Expr} {c c' : Cursor} (hleft : Undefined ops left)
    (h : gather .tree right strength links left c = .ok (e, c')) : Undefined ops e := by
  induction links generalizing left c with
  | nil =>
    cases h
    exact hleft
  | cons t links ih =>
    simp only [gather] at h
    split at h
    · cases h
      exact hleft
    · rename_i op _
      split at h
      · obtain ⟨x, c₁, -, h⟩ := andThen_eq_ok.mp h
        exact ih (hleft.left op x) h
      · cases h
        exact hleft

theorem levels_undefined {right : Nat → Cursor → Step Expr} {lowest : Nat} (strength : Nat)
    {left e : Expr} {c c' : Cursor} (hleft : Undefined ops left)
    (h : levels .tree right lowest strength left c = .ok (e, c')) : Undefined ops e := by
  induction strength generalizing left c with
  | zero =>
    cases h
    exact hleft
  | succ strength ih =>
    simp only [levels] at h
    split at h
    · cases h
      exact hleft
    · obtain ⟨x, c₁, hg, h⟩ := andThen_eq_ok.mp h
      exact ih (gather_undefined _ hleft hg) h

/-- The operators of one strength, when the right operands agree. -/
theorem gather_agree {right : Cursor → Step Expr} {right' : Cursor → Step Binary64}
    (hright : ∀ c, Agree ops (right c) (right' c)) {strength : Nat} (links : List Token)
    {left : Expr} {x : Binary64} (c : Cursor) (hleft : left.fold (.value ops) = .ok x) :
    Agree ops (gather .tree right strength links left c)
      (gather (.eager ops) right' strength links x c) := by
  induction links generalizing left x c with
  | nil => exact .value hleft
  | cons t links ih =>
    simp only [gather]
    cases c.current.operator? with
    | none => exact .value hleft
    | some op =>
      by_cases hp : op.priority = strength
      · simp only [hp, if_true]
        refine ((hright c.advance).noting (.rightOperand op)).andThen ?_ ?_
        · intro e y c' he
          refine (built_agree hleft he op c').andThen ?_ ?_
          · intro e' z c₁ he'
            exact ih c₁ he'
          · intro e' c₁ e₂ c₂ he' h
            exact gather_undefined links he' h
        · intro e c' e' c₂ he h
          exact gather_undefined links (Undefined.right hleft he op) h
      · simp only [hp, if_false]
        exact .value hleft

/-- All operators down to the lowest strength. -/
theorem levels_agree {right : Nat → Cursor → Step Expr} {right' : Nat → Cursor → Step Binary64}
    (hright : ∀ p c, Agree ops (right p c) (right' p c)) {lowest : Nat} (strength : Nat)
    {left : Expr} {x : Binary64} (c : Cursor) (hleft : left.fold (.value ops) = .ok x) :
    Agree ops (levels .tree right lowest strength left c)
      (levels (.eager ops) right' lowest strength x c) := by
  induction strength generalizing left x c with
  | zero => exact .value hleft
  | succ strength ih =>
    simp only [levels]
    split
    · exact .value hleft
    · refine (gather_agree (hright (strength + 2)) c.rest c hleft).andThen ?_ ?_
      · intro e y c' he
        exact ih c' he
      · intro e c' e' c₂ he h
        exact levels_undefined strength he h

/-! ## The four rules -/

/-- The runs agree in every rule, at every budget. -/
structure AgreeAt (ops : Arithmetic) (n : Nat) : Prop where
  expression : ∀ c, Agree ops (expression .tree n c) (expression (.eager ops) n c)
  chain : ∀ lowest c, Agree ops (chain .tree n lowest c) (chain (.eager ops) n lowest c)
  signed : ∀ c, Agree ops (signed .tree n c) (signed (.eager ops) n c)
  primary : ∀ c, Agree ops (primary .tree n c) (primary (.eager ops) n c)

theorem AgreeAt.chain_succ {n : Nat} (h : AgreeAt ops n) (lowest : Nat) (c : Cursor) :
    Agree ops (Descent.chain .tree (n + 1) lowest c)
      (Descent.chain (.eager ops) (n + 1) lowest c) := by
  simp only [Descent.chain]
  refine ((h.signed c).noting .firstOperand).andThen ?_ ?_
  · intro e x c' he
    exact levels_agree h.chain _ c' he
  · intro e c' e' c₂ he h
    exact levels_undefined _ he h

theorem AgreeAt.signed_succ {n : Nat} (h : AgreeAt ops n) (c : Cursor) :
    Agree ops (Descent.signed .tree (n + 1) c) (Descent.signed (.eager ops) (n + 1) c) := by
  simp only [Descent.signed]
  cases c.current.sign? with
  | none => exact h.primary c
  | some sign =>
    simp only
    refine ((h.signed c.advance).noting _).andThen ?_ ?_
    · intro e x c' he
      exact .value (fold_unary he sign)
    · intro e c' e' c₂ he h
      cases h
      exact he.unary sign

theorem AgreeAt.primary_succ {n : Nat} (h : AgreeAt ops n) (c : Cursor) :
    Agree ops (Descent.primary .tree (n + 1) c) (Descent.primary (.eager ops) (n + 1) c) := by
  simp only [Descent.primary]
  split
  · cases numberValue c.current.text with
    | error cause => exact .stop
    | ok x => exact .value rfl
  · split
    · -- the parentheses leave no node
      refine ((h.expression c.advance).noting _).andThen ?_ ?_
      · intro e x c' he
        split
        · exact .value he
        · exact .stop
      · intro e c' e' c₂ he h
        split at h
        · cases h
          exact he
        · cases h
    · exact .stop

theorem agree (ops : Arithmetic) (n : Nat) : AgreeAt ops n := by
  induction n with
  | zero =>
    exact ⟨fun _ => .stop, fun _ _ => .stop, fun _ => .stop, fun _ => .stop⟩
  | succ n ih => exact ⟨ih.chain 1, ih.chain_succ, ih.signed_succ, ih.primary_succ⟩

/-- What the two modes make of a whole text. -/
inductive AgreeWhole (ops : Arithmetic) : Except Stop Expr → Except Stop Binary64 → Prop where
  | value {e : Expr} {x : Binary64} (h : e.fold (.value ops) = .ok x) :
      AgreeWhole ops (.ok e) (.ok x)
  | undefined {e : Expr} {r : Except Stop Binary64} (h : Undefined ops e)
      (hr : DividesByZero r) : AgreeWhole ops (.ok e) r
  | stop {s s' : Stop} : AgreeWhole ops (.error s) (.error s')

theorem wholeText_agree (ops : Arithmetic) (c : Cursor) :
    AgreeWhole ops (wholeText .tree c) (wholeText (.eager ops) c) := by
  simp only [wholeText]
  have hs := ((agree ops budget).expression c).noting .wholeText
  generalize noting .wholeText (expression .tree budget c) = r at hs ⊢
  generalize noting .wholeText (expression (.eager ops) budget c) = r' at hs ⊢
  cases hs with
  | stop => exact .stop
  | sooner hr =>
    obtain ⟨f, current, rfl, hc⟩ := hr
    exact .stop
  | undefined he hr =>
    obtain ⟨f, current, rfl, hc⟩ := hr
    simp only [andThen_ok, andThen_error]
    split
    · exact .undefined he ⟨f, current, rfl, hc⟩
    · exact .stop
  | value he =>
    simp only [andThen_ok]
    split
    · exact .value he
    · exact .stop

end Calculator.Descent

namespace Calculator

open Descent

/-- **Eager mode refines tree mode.** On a text that has a tree, eager mode gives the value of the
tree, or fails as evaluating the tree fails: with the same kind of failure and the same message.
What eager mode accepts has a tree, with the value that eager mode gave. -/
theorem parseEagerly_refines_parse (ops : Arithmetic) (s : Source) :
    (∀ e, parse s = .ok e →
      (∀ x, e.evaluate ops = .ok x → parseEagerly ops s = .ok (.literal x)) ∧
      (∀ fault, e.evaluate ops = .error fault →
        ∃ f g, fault = .failed f ∧ parseEagerly ops s = .error (.failed g) ∧
          g.kind = f.kind ∧ g.cause.message = f.cause.message)) ∧
    (∀ e', parseEagerly ops s = .ok e' →
      ∃ x e, e' = .literal x ∧ parse s = .ok e ∧ e.evaluate ops = .ok x) := by
  simp only [parse, parseEagerly, Expr.evaluate_eq_fold]
  have h := wholeText_agree ops (.ofSource s)
  generalize wholeText .tree (.ofSource s) = r at h ⊢
  generalize wholeText (.eager ops) (.ofSource s) = r' at h ⊢
  cases h with
  | stop =>
    refine ⟨fun e he => ?_, fun e' he' => ?_⟩
    · cases he
    · cases he'
  | @value e x h =>
    refine ⟨fun e₀ he => ?_, fun e' he' => ?_⟩
    · cases he
      refine ⟨fun x₀ hx => ?_, fun fault hf => ?_⟩
      · rw [h] at hx
        cases hx
        rfl
      · rw [h] at hf
        cases hf
    · cases he'
      exact ⟨x, e, rfl, rfl, h⟩
  | @undefined e _ h hr =>
    obtain ⟨f, hf, hc⟩ := h
    obtain ⟨g, current, rfl, hg⟩ := hr
    refine ⟨fun e₀ he => ?_, fun e' he' => ?_⟩
    · cases he
      refine ⟨fun x₀ hx => ?_, fun fault hfault => ?_⟩
      · rw [hf] at hx
        cases hx
      · rw [hf] at hfault
        cases hfault
        refine ⟨f, g, rfl, rfl, ?_, ?_⟩
        · rw [Failure.kind, Failure.kind, hc, hg]
        · rw [hc, hg]
    · cases he'

/-- Two texts with a tree: one has a value, the other divides by a negative zero. -/
theorem parseEagerly_value_and_failure :
    parseEagerly .machine (.text ['-', '2']) = .ok (.literal ⟨0xC000000000000000⟩) ∧
    ∃ g, parseEagerly .machine (.text ['1', '/', '-', '0']) = .error (.failed g) ∧
      g.kind = .divisionByZero := by
  have hvalue : parse (.text ['-', '2']) =
      .ok (.unary (.known .minus) (.literal ⟨0x4000000000000000⟩)) := by decide +kernel
  have hfailure : parse (.text ['1', '/', '-', '0']) = .ok (.binary (.known .div)
      (.literal ⟨0x3FF0000000000000⟩) (.unary (.known .minus) (.literal ⟨0⟩))) := by decide +kernel
  refine ⟨((parseEagerly_refines_parse _ _).1 _ hvalue).1 _ ?_, ?_⟩
  · rw [Expr.evaluate_eq_fold]
    rfl
  · obtain ⟨f, g, hf, hg, hk, -⟩ := ((parseEagerly_refines_parse .machine _).1 _ hfailure).2
      (.failed { cause := .divisionByZero }) (by rw [Expr.evaluate_eq_fold]; rfl)
    cases hf
    exact ⟨g, hg, hk⟩

end Calculator
