import Calculator.Proofs.EagerMode
import Calculator.Proofs.ViablePrefix
import Calculator.Proofs.WalkOrder

/-!
# What tree mode rejects, eager mode rejects

On a text that has no tree, the run that builds the tree still builds nodes until it fails. Eager
mode goes the same way and fails with the same failure, unless one of those nodes comes to a
division by zero, at which eager mode has stopped already.

Which nodes a run builds is observed from outside, by a breakpoint: `Builder.haltingAt` builds the
tree as well, but stops as soon as it is asked for a given node. A run builds a node if the run with
a breakpoint there halts. The relation `Watched` holds the tree run, the runs with breakpoints and
the eager run together: all of them go on alike until a node without a value is built, and there
the breakpoint halts and eager mode stops.
-/

namespace Calculator

/-! ## Breakpoints -/

/-- The cause with which a run ends at a breakpoint. -/
def Cause.breakpoint : Cause := .stated .general "breakpoint"

/-- Build the tree, but stop as soon as the given node is built. -/
def Builder.haltingAt (node : Expr) : Builder Expr where
  literal := .literal
  unary _ sign e := pause (.unary (.known sign) e)
  binary _ op l r := pause (.binary (.known op) l r)
where
  /-- The node that was built, unless it is the one to stop at. -/
  pause (built : Expr) : Except Failure Expr :=
    if built = node then .error { cause := .breakpoint } else .ok built

/-- A run that ended at a breakpoint. -/
def Descent.Halts {β : Type} (r : Except Stop β) : Prop :=
  ∃ f current, r = .error (.failed f current) ∧ f.cause = .breakpoint

/-- While it reads a source, the parser builds a node: signed, or with an operator. Nodes are known
to a run through its builder alone, so that up to the breakpoint it is the run of the parser. -/
def Builds (s : Source) (node : Expr) : Prop :=
  Descent.Halts (Descent.wholeText (.haltingAt node) (.ofSource s))

/-- Evaluation comes to a division by zero. -/
def Expr.DividesByZero (ops : Arithmetic) (e : Expr) : Prop :=
  ∃ f, e.evaluate ops = .error (.failed f) ∧ f.kind = .divisionByZero

namespace Expr

theorem cause_of_applySign {m : Mark Sign} {x : Binary64} {cause : Cause}
    (h : m.applySign x = .error cause) (hk : cause.kind = .divisionByZero) :
    cause = .divisionByZero := by
  cases m with
  | known sign => cases h
  | other stray =>
    simp only [Mark.applySign] at h
    split at h
    · cases h
    · cases h
      cases hk

theorem cause_of_apply {ops : Arithmetic} {m : Mark Operator} {x y : Binary64} {cause : Cause}
    (h : m.apply ops x y = .error cause) (hk : cause.kind = .divisionByZero) :
    cause = .divisionByZero := by
  cases m with
  | known op => exact Descent.cause_of_apply_error h
  | other stray =>
    simp only [Mark.apply] at h
    split at h
    · exact Descent.cause_of_apply_error h
    · cases h
      cases hk

/-- The only cause of its kind that evaluation meets. -/
theorem cause_of_fold_value {ops : Arithmetic} {e : Expr} {f : Failure}
    (h : e.fold (.value ops) = .error (.failed f)) (hk : f.kind = .divisionByZero) :
    f.cause = .divisionByZero := by
  obtain ⟨made, hf⟩ := exists_folds (.value ops) e
  rw [h] at hf
  clear h
  -- a fault of an operand has the same cause in the operand
  have hunder : ∀ {a : Ancestor} {fault : Fault} {f : Failure},
      (∀ {g : Failure}, g.kind = .divisionByZero →
        (.error (.failed g) : Except Fault Binary64) = .error fault → g.cause = .divisionByZero) →
      f.kind = .divisionByZero →
      (.error (.failed f) : Except Fault Binary64) = .error (a.leave fault) →
      f.cause = .divisionByZero := by
    intro a fault f ih hk hout
    obtain ⟨g, rfl, hg⟩ := Ancestor.cause_of_leave (Except.error.inj hout).symm
    rw [Failure.kind, ← hg] at hk
    rw [← hg]
    exact ih hk rfl
  generalize hout : (.error (.failed f) : Except Fault Binary64) = out at hf
  induction hf generalizing f with
  | literal v => cases hout
  | foreign kind =>
    cases hout
    cases hk
  | unary _ _ =>
    obtain ⟨cause, ha, rfl⟩ := exists_cause_of_mapError hout.symm
    exact cause_of_applySign ha hk
  | binary _ _ _ _ =>
    obtain ⟨cause, ha, rfl⟩ := exists_cause_of_mapError hout.symm
    exact cause_of_apply ha hk
  | @unaryFails m _ _ _ _ ih => exact hunder (a := .signed m) ih hk hout
  | @leftFails m _ _ _ _ _ ih => exact hunder (a := .joined m) ih hk hout
  | @rightFails m _ _ _ _ _ _ _ _ _ ih => exact hunder (a := .joined m) ih hk hout

theorem dividesByZero_iff {ops : Arithmetic} {e : Expr} :
    e.DividesByZero ops ↔ Descent.Undefined ops e := by
  simp only [DividesByZero, Descent.Undefined, evaluate_eq_fold]
  constructor
  · rintro ⟨f, hf, hk⟩
    exact ⟨f, hf, cause_of_fold_value hf hk⟩
  · rintro ⟨f, hf, hc⟩
    exact ⟨f, hf, by rw [Failure.kind, hc]; rfl⟩

end Expr

/-! ## The relation between the runs -/

namespace Descent

/-- What a rule gives in tree mode, with a breakpoint at each node, and in eager mode. -/
inductive Watched (ops : Arithmetic) :
    Step Expr → (Expr → Step Expr) → Step Binary64 → Prop where
  /-- All go on alike, with a tree that has a value. -/
  | value {e : Expr} {x : Binary64} {c : Cursor} {halting : Expr → Step Expr}
      (h : e.fold (.value ops) = .ok x)
      (hh : ∀ node, Undefined ops node → halting node = .ok (e, c)) :
      Watched ops (.ok (e, c)) halting (.ok (x, c))
  /-- All stop alike. -/
  | stop {s : Stop} {halting : Expr → Step Expr}
      (hh : ∀ node, Undefined ops node → halting node = .error s) :
      Watched ops (.error s) halting (.error s)
  /-- A node without a value was built, and the eager run has stopped there. -/
  | undefined {r : Step Expr} {halting : Expr → Step Expr} {r' : Step Binary64} {node : Expr}
      (hn : Undefined ops node) (hh : Halts (halting node)) (hr : DividesByZero r') :
      Watched ops r halting r'

theorem Halts.noting {β : Type} {r : Except Stop β} (h : Halts r) (crumb : Token → Crumb) :
    Halts (noting crumb r) := by
  obtain ⟨f, current, rfl, hc⟩ := h
  exact ⟨f.note (crumb current), current, rfl, hc⟩

section Watched

variable {ops : Arithmetic} {r : Step Expr} {halting halting' : Expr → Step Expr}
  {r' : Step Binary64}

/-- Only breakpoints at nodes without a value count. -/
theorem Watched.congr (h : Watched ops r halting r')
    (heq : ∀ node, Undefined ops node → halting' node = halting node) :
    Watched ops r halting' r' := by
  cases h with
  | value h hh => exact .value h fun node hn => (heq node hn).trans (hh node hn)
  | stop hh => exact .stop fun node hn => (heq node hn).trans (hh node hn)
  | undefined hn hh hr => exact .undefined hn (heq _ hn ▸ hh) hr

theorem Watched.noting (h : Watched ops r halting r') (crumb : Token → Crumb) :
    Watched ops (noting crumb r) (fun node => noting crumb (halting node)) (noting crumb r') := by
  cases h with
  | value h hh =>
    refine .value h fun node hn => ?_
    rw [hh node hn, noting_ok]
  | @stop s _ hh =>
    cases s with
    | tooDeep =>
      refine .stop fun node hn => ?_
      rw [hh node hn, noting_tooDeep]
    | failed f current =>
      refine .stop fun node hn => ?_
      rw [hh node hn, noting_failed]
  | undefined hn hh hr => exact .undefined hn (hh.noting crumb) (hr.noting crumb)

/-- **One step of all runs**: they are held together behind it if they are where all went on. -/
theorem Watched.andThen (h : Watched ops r halting r') {next : Expr → Cursor → Step Expr}
    {hnext : Expr → Expr → Cursor → Step Expr} {next' : Binary64 → Cursor → Step Binary64}
    (hvalue : ∀ e x c, e.fold (.value ops) = .ok x →
      Watched ops (next e c) (fun node => hnext node e c) (next' x c)) :
    Watched ops (andThen r next) (fun node => andThen (halting node) (hnext node))
      (andThen r' next') := by
  cases h with
  | value h hh =>
    refine (hvalue _ _ _ h).congr fun node hn => ?_
    rw [hh node hn, andThen_ok]
  | stop hh =>
    refine .stop fun node hn => ?_
    rw [hh node hn, andThen_error]
  | undefined hn hh hr =>
    obtain ⟨f, current, hf, hc⟩ := hh
    obtain ⟨g, current', rfl, hg⟩ := hr
    refine .undefined hn ⟨f, current, ?_, hc⟩ ⟨g, current', rfl, hg⟩
    rw [hf, andThen_error]

/-- A node with a value passes every breakpoint that counts. -/
theorem pause_of_fold {e node : Expr} {x : Binary64} (h : e.fold (.value ops) = .ok x)
    (hn : Undefined ops node) : Builder.haltingAt.pause node e = .ok e := by
  have hne : e ≠ node := by
    rintro rfl
    obtain ⟨f, hf, -⟩ := hn
    rw [h] at hf
    cases hf
  rw [Builder.haltingAt.pause, if_neg hne]

theorem built_watched {l r : Expr} {x y : Binary64} (hl : l.fold (.value ops) = .ok x)
    (hr : r.fold (.value ops) = .ok y) (op : Operator) (c : Cursor) :
    Watched ops (built c (Builder.tree.binary c.current op l r))
      (fun node => built c ((Builder.haltingAt node).binary c.current op l r))
      (built c ((Builder.eager ops).binary c.current op x y)) := by
  cases ha : op.apply ops x y with
  | error cause =>
    refine .undefined (Undefined.node hl hr ha) ⟨{ cause := .breakpoint }, c.current, ?_, rfl⟩
      (built_dividesByZero ha c)
    simp only [Builder.haltingAt, Builder.haltingAt.pause, if_true, built]
  | ok z =>
    have hz := fold_binary hl hr ha
    simp only [Builder.eager, ha]
    refine .value hz fun node hn => ?_
    simp only [Builder.haltingAt, pause_of_fold hz hn, built]

end Watched

/-! ## The rules -/

variable {ops : Arithmetic}

theorem gather_watched {right : Cursor → Step Expr} {hright : Expr → Cursor → Step Expr}
    {right' : Cursor → Step Binary64}
    (h : ∀ c, Watched ops (right c) (fun node => hright node c) (right' c)) {strength : Nat}
    (links : List Token) {left : Expr} {x : Binary64} (c : Cursor)
    (hleft : left.fold (.value ops) = .ok x) :
    Watched ops (gather .tree right strength links left c)
      (fun node => gather (.haltingAt node) (hright node) strength links left c)
      (gather (.eager ops) right' strength links x c) := by
  induction links generalizing left x c with
  | nil => exact .value hleft fun _ _ => rfl
  | cons t links ih =>
    simp only [gather]
    cases c.current.operator? with
    | none => exact .value hleft fun _ _ => rfl
    | some op =>
      by_cases hp : op.priority = strength
      · simp only [hp, if_true]
        refine ((h c.advance).noting (.rightOperand op)).andThen ?_
        intro e y c' he
        refine (built_watched hleft he op c').andThen ?_
        intro e' z c₁ he'
        exact ih c₁ he'
      · simp only [hp, if_false]
        exact .value hleft fun _ _ => rfl

theorem levels_watched {right : Nat → Cursor → Step Expr}
    {hright : Expr → Nat → Cursor → Step Expr} {right' : Nat → Cursor → Step Binary64}
    (h : ∀ p c, Watched ops (right p c) (fun node => hright node p c) (right' p c))
    {lowest : Nat} (strength : Nat) {left : Expr} {x : Binary64} (c : Cursor)
    (hleft : left.fold (.value ops) = .ok x) :
    Watched ops (levels .tree right lowest strength left c)
      (fun node => levels (.haltingAt node) (hright node) lowest strength left c)
      (levels (.eager ops) right' lowest strength x c) := by
  induction strength generalizing left x c with
  | zero => exact .value hleft fun _ _ => rfl
  | succ strength ih =>
    simp only [levels]
    split
    · exact .value hleft fun _ _ => rfl
    · refine (gather_watched (h (strength + 2)) c.rest c hleft).andThen ?_
      intro e y c' he
      exact ih c' he

/-- The runs are held together in every rule, at a budget. -/
structure WatchedAt (ops : Arithmetic) (n : Nat) : Prop where
  expression : ∀ c, Watched ops (expression .tree n c)
    (fun node => expression (.haltingAt node) n c) (expression (.eager ops) n c)
  chain : ∀ lowest c, Watched ops (chain .tree n lowest c)
    (fun node => chain (.haltingAt node) n lowest c) (chain (.eager ops) n lowest c)
  signed : ∀ c, Watched ops (signed .tree n c)
    (fun node => signed (.haltingAt node) n c) (signed (.eager ops) n c)
  primary : ∀ c, Watched ops (primary .tree n c)
    (fun node => primary (.haltingAt node) n c) (primary (.eager ops) n c)

theorem WatchedAt.chain_succ {n : Nat} (h : WatchedAt ops n) (lowest : Nat) (c : Cursor) :
    Watched ops (Descent.chain .tree (n + 1) lowest c)
      (fun node => Descent.chain (.haltingAt node) (n + 1) lowest c)
      (Descent.chain (.eager ops) (n + 1) lowest c) := by
  simp only [Descent.chain]
  refine ((h.signed c).noting .firstOperand).andThen ?_
  intro e x c' he
  exact levels_watched h.chain _ c' he

theorem WatchedAt.signed_succ {n : Nat} (h : WatchedAt ops n) (c : Cursor) :
    Watched ops (Descent.signed .tree (n + 1) c)
      (fun node => Descent.signed (.haltingAt node) (n + 1) c)
      (Descent.signed (.eager ops) (n + 1) c) := by
  simp only [Descent.signed]
  cases c.current.sign? with
  | none => exact h.primary c
  | some sign =>
    simp only
    refine ((h.signed c.advance).noting _).andThen ?_
    intro e x c' he
    have hx := fold_unary he sign
    refine .value hx fun node hn => ?_
    simp only [Builder.haltingAt, pause_of_fold hx hn, built]

theorem WatchedAt.primary_succ {n : Nat} (h : WatchedAt ops n) (c : Cursor) :
    Watched ops (Descent.primary .tree (n + 1) c)
      (fun node => Descent.primary (.haltingAt node) (n + 1) c)
      (Descent.primary (.eager ops) (n + 1) c) := by
  simp only [Descent.primary]
  split
  · cases numberValue c.current.text with
    | error cause => exact .stop fun _ _ => rfl
    | ok x => exact .value rfl fun _ _ => rfl
  · split
    · refine ((h.expression c.advance).noting _).andThen ?_
      intro e x c' he
      split
      · exact .value he fun _ _ => rfl
      · exact .stop fun _ _ => rfl
    · exact .stop fun _ _ => rfl

theorem watchedAt (ops : Arithmetic) (n : Nat) : WatchedAt ops n := by
  induction n with
  | zero =>
    exact ⟨fun _ => .stop fun _ _ => rfl, fun _ _ => .stop fun _ _ => rfl,
      fun _ => .stop fun _ _ => rfl, fun _ => .stop fun _ _ => rfl⟩
  | succ n ih => exact ⟨ih.chain 1, ih.chain_succ, ih.signed_succ, ih.primary_succ⟩

/-- On a whole text, either a node without a value is built and the eager run stops there, or no
breakpoint that counts is met and the eager run stops where the tree run does. -/
theorem wholeText_watched (ops : Arithmetic) (c : Cursor) :
    (∃ node, Undefined ops node ∧ Halts (wholeText (.haltingAt node) c) ∧
      DividesByZero (wholeText (.eager ops) c)) ∨
    ((∀ node, Undefined ops node → wholeText (.haltingAt node) c = wholeText .tree c) ∧
      ∀ stop, wholeText .tree c = .error stop → wholeText (.eager ops) c = .error stop) := by
  simp only [wholeText]
  have h := ((watchedAt ops budget).expression c).noting .wholeText
  generalize noting .wholeText (expression .tree budget c) = r at h ⊢
  generalize noting .wholeText (expression (.eager ops) budget c) = r' at h ⊢
  cases h with
  | undefined hn hh hr =>
    obtain ⟨f, current, hf, hc⟩ := hh
    obtain ⟨g, current', rfl, hg⟩ := hr
    dsimp only at hf
    refine .inl ⟨_, hn, ⟨f, current, ?_, hc⟩, ⟨g, current', rfl, hg⟩⟩
    rw [hf, andThen_error]
  | stop hh =>
    dsimp only at hh
    refine .inr ⟨fun node hn => ?_, fun stop hs => ?_⟩
    · rw [hh node hn, andThen_error]
    · cases hs
      rfl
  | @value e x c' _ _ hh =>
    dsimp only at hh
    refine .inr ⟨fun node hn => ?_, fun stop hs => ?_⟩
    · rw [hh node hn, andThen_ok]
    · simp only [andThen_ok] at hs ⊢
      split at hs
      · cases hs
      · rename_i hend
        rw [if_neg hend]
        cases hs
        rfl

end Descent

open Descent

/-- The failures of the parser are those of the text and of its grammar. -/
theorem kind_of_parse {s : Source} {f : Failure} (h : parse s = .error (.failed f)) :
    f.kind = .lexical ∨ f.kind = .grammar := by
  obtain ⟨t, hread⟩ := parse_eq_failed.mp h
  obtain ⟨before, after, p, -, hr, hrej, rfl⟩ :=
    Partial.exists_rejects_of_read (Lexer.reads_tokens s).1 hread
  exact (hrej.kind_iff hr).2

theorem wholeText_eq_of_parse {s : Source} {f : Failure} (h : parse s = .error (.failed f)) :
    ∃ current, wholeText .tree (.ofSource s) = .error (.failed f current) := by
  rw [parse] at h
  cases hw : wholeText .tree (.ofSource s) with
  | ok e =>
    rw [hw] at h
    cases h
  | error stop =>
    rw [hw] at h
    cases stop with
    | tooDeep => cases h
    | failed g current =>
      cases h
      exact ⟨current, rfl⟩

/-- **Eager mode hides no failure.** On a text that the parser rejects, and not for its depth, eager
mode fails as well: with a division by zero if a node that the parser had built comes to one, and
otherwise with the very same failure, its offset and its whole trail included. -/
theorem parseEagerly_of_rejected (ops : Arithmetic) (s : Source) (f : Failure)
    (h : parse s = .error (.failed f)) :
    ((∃ node, Builds s node ∧ node.DividesByZero ops) ↔
      ∃ g, parseEagerly ops s = .error (.failed g) ∧ g.kind = .divisionByZero) ∧
    ((¬ ∃ node, Builds s node ∧ node.DividesByZero ops) →
      parseEagerly ops s = .error (.failed f)) := by
  obtain ⟨current, htree⟩ := wholeText_eq_of_parse h
  have hkind := kind_of_parse h
  simp only [Expr.dividesByZero_iff]
  rcases wholeText_watched ops (.ofSource s) with ⟨node, hn, hh, g, current', hg, hc⟩ | ⟨hh, hs⟩
  · -- the eager run stopped at a node that the tree run built
    have heager : parseEagerly ops s = .error (.failed g) := by
      rw [parseEagerly, hg]
      rfl
    refine ⟨⟨fun _ => ⟨g, heager, ?_⟩, fun _ => ⟨node, hh, hn⟩⟩, fun hno => ?_⟩
    · rw [Failure.kind, hc]
      rfl
    · exact absurd ⟨node, hh, hn⟩ hno
  · have heager : parseEagerly ops s = .error (.failed f) := by
      rw [parseEagerly, hs _ htree]
      rfl
    refine ⟨⟨?_, ?_⟩, fun _ => heager⟩
    · rintro ⟨node, ⟨g, current', hg, hc⟩, hn⟩
      rw [hh node hn, htree] at hg
      cases hg
      rw [Failure.kind, hc] at hkind
      rcases hkind with hkind | hkind <;> cases hkind
    · rintro ⟨g, hg, hk⟩
      rw [heager] at hg
      cases hg
      rw [hk] at hkind
      rcases hkind with hkind | hkind <;> cases hkind

/-- `1/0+` lacks an operand, but the quotient before it is built first. -/
theorem parseEagerly_of_open_sum :
    parse (.text ['1', '/', '0', '+']) =
      .error (.failed ⟨.unexpected ⟨.eof, "", 4⟩, some 4, [.wholeText ⟨.eof, "", 4⟩,
        .rightOperand .add ⟨.eof, "", 4⟩, .firstOperand ⟨.eof, "", 4⟩]⟩) ∧
    ∃ g, parseEagerly .machine (.text ['1', '/', '0', '+']) = .error (.failed g) ∧
      g.kind = .divisionByZero := by
  have hparse : parse (.text ['1', '/', '0', '+']) =
      .error (.failed ⟨.unexpected ⟨.eof, "", 4⟩, some 4, [.wholeText ⟨.eof, "", 4⟩,
        .rightOperand .add ⟨.eof, "", 4⟩, .firstOperand ⟨.eof, "", 4⟩]⟩) := by decide +kernel
  refine ⟨hparse, (parseEagerly_of_rejected .machine _ _ hparse).1.mp ?_⟩
  refine ⟨.binary (.known .div) (.literal ⟨0x3FF0000000000000⟩) (.literal ⟨0⟩), ?_, ?_⟩
  · exact ⟨⟨.breakpoint, none, [.wholeText ⟨.symbol, "+", 3⟩]⟩, ⟨.symbol, "+", 3⟩,
      by decide +kernel, rfl⟩
  · exact ⟨{ cause := .divisionByZero }, by rw [Expr.evaluate_eq_fold]; rfl, rfl⟩

end Calculator
