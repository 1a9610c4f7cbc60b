import Calculator.Proofs.Acceptance

/-!
# Reading from the left

The descent takes an expression apart from the outside in. Seen from the left, all that counts at a
token is which constructs are open there, and whether an operand must follow or one has just been
read. That is a `Partial` expression. Each token leads from one to the next, so what was read so far
is a function of the tokens so far; and a token that leads nowhere is where reading fails, with a
failure that is a function of the open constructs and of that token.

The main statement is `wholeText_eq_read`: the descent and the reading from the left come to the
same tree, to the same failure with the same trail, or both to too deep a nesting. It rests on one
equation for each rule of the descent, which says that going on from the left behind the rule is
the same as reading from the left from its beginning.
-/

namespace Calculator

/-! ## Open constructs -/

/-- A construct that was begun and waits for its operand, or for its end. -/
inductive Construct where
  /-- A sign, with its offset. -/
  | signed (sign : Sign) (offset : Nat)
  /-- An operator behind its left operand. -/
  | joined (op : Operator) (left : Expr)
  /-- A group opened at an offset. -/
  | group (offset : Nat)
deriving DecidableEq, Repr

namespace Construct

/-- How strongly a construct holds on to the operand that follows it. Parentheses do not hold it:
they wait for their end. -/
def strength : Construct → Nat
  | signed _ _ => 3
  | joined op _ => op.priority
  | group _ => 0

/-- The construct with its operand. Parentheses leave no node. -/
def complete : Construct → Expr → Expr
  | signed sign _, e => .unary (.known sign) e
  | joined op left, e => .binary (.known op) left e
  | group _, e => e

/-- How many rules of the descent are open for a construct. -/
def cost : Construct → Nat
  | signed _ _ => 1
  | joined _ _ => 1
  | group _ => 4

/-- How many rules of the descent are open for the constructs around a place. -/
def costOfAll : List Construct → Nat
  | [] => 0
  | k :: around => k.cost + costOfAll around

/-- Complete the innermost constructs, as long as they hold on to the operand with at least the
given strength. -/
def settle (strength : Nat) : Expr → List Construct → Expr × List Construct
  | e, [] => (e, [])
  | e, k :: around =>
    if strength ≤ k.strength then settle strength (k.complete e) around else (e, k :: around)

/-- A failure on its way out through the constructs around it, the innermost first. The first
operand of a chain leaves a crumb of its own, behind those of its signs. -/
def escape (current : Token) (first : Bool) : List Construct → Failure → Failure
  | [], f => (leave current first f).note (.wholeText current)
  | signed sign offset :: around, f =>
    escape current first around (f.note (.signedOperand sign offset))
  | joined op _ :: around, f =>
    escape current false around ((leave current first f).note (.rightOperand op current))
  | group offset :: around, f =>
    escape current true around ((leave current first f).note (.group offset))
where
  /-- A failure that leaves a chain, from its first operand or from a later one. -/
  leave (current : Token) (first : Bool) (f : Failure) : Failure :=
    if first then f.note (.firstOperand current) else f

end Construct

open Construct

/-! ## Partial expressions -/

/-- What was read of an expression: an operand must follow, or one has been read. The constructs
around the place are listed with the innermost first. -/
inductive Partial where
  | awaiting (around : List Construct)
  | holding (operand : Expr) (around : List Construct)
deriving DecidableEq, Repr

namespace Partial

/-- Nothing was read yet. -/
def start : Partial := awaiting []

/-- What a token leads to, if it can stand there. -/
def next : Partial → Token → Option Partial
  | awaiting around, t =>
    if t.isNumber then
      match Descent.numberValue t.text with
      | .ok x => some (holding (.literal x) around)
      | .error _ => none
    else if t.isSymbol "(" then some (awaiting (.group t.pos :: around))
    else
      match t.sign? with
      | some sign => some (awaiting (.signed sign t.pos :: around))
      | none => none
  | holding e around, t =>
    match t.operator? with
    | some op =>
      let (left, around) := settle op.priority e around
      some (awaiting (.joined op left :: around))
    | none =>
      if t.isSymbol ")" then
        match settle 1 e around with
        | (e, .group _ :: around) => some (holding e around)
        | _ => none
      else none

/-- The expression, if nothing is missing. -/
def complete? : Partial → Option Expr
  | awaiting _ => none
  | holding e around =>
    match settle 1 e around with
    | (e, []) => some e
    | _ => none

/-- What is wrong with a token that stands where no operand begins. -/
def misplaced (t : Token) : Cause :=
  if t.isNumber then
    match Descent.numberValue t.text with
    | .error cause => cause
    | .ok _ => .unexpected t
  else .unexpected t

/-- The failure at a token that cannot stand here. Where an operand has been read, all chains inside
the innermost group are over, and so is its own failure to close. -/
def objection : Partial → Token → Failure
  | awaiting around, t => escape t true around (.atPos (misplaced t) t.pos)
  | holding e around, t =>
    match (settle 1 e around).2 with
    | .group _ :: around => escape t true around (.atPos (.unclosed t) t.pos)
    | _ => .atPos (.unexpected t) t.pos

/-- Whether an operand must follow at a place that is nested too deeply. -/
def exceeds (limit : Nat) : Partial → Bool
  | awaiting around => decide (limit < costOfAll around)
  | holding _ _ => false

/-- Read tokens from the left, up to the end at the given offset. -/
def read (limit : Nat) : Partial → List Token → Nat → Except Stop Expr
  | p, [], finish =>
    if p.exceeds limit then .error .tooDeep
    else
      match p.complete? with
      | some e => .ok e
      | none => .error (.failed (p.objection (.finish finish)) (.finish finish))
  | p, t :: ts, finish =>
    if p.exceeds limit then .error .tooDeep
    else
      match p.next t with
      | some p' => read limit p' ts finish
      | none => .error (.failed (p.objection t) t)

end Partial

open Partial

/-! ## One step -/

namespace Construct

@[simp] theorem costOfAll_cons (k : Construct) (around : List Construct) :
    costOfAll (k :: around) = k.cost + costOfAll around := rfl

theorem settle_cons_of_le {strength : Nat} {e : Expr} {k : Construct} {around : List Construct}
    (h : strength ≤ k.strength) :
    settle strength e (k :: around) = settle strength (k.complete e) around := by
  rw [settle, if_pos h]

/-- Constructs that hold less strongly stay open. -/
theorem settle_eq_self {strength : Nat} (e : Expr) {around : List Construct}
    (h : ∀ k ∈ around.head?, k.strength < strength) : settle strength e around = (e, around) := by
  cases around with
  | nil => rfl
  | cons k around => rw [settle, if_neg (Nat.not_le.mpr (h k rfl))]

/-- What stays open holds less strongly. -/
theorem settle_head_lt (strength : Nat) (e : Expr) (around : List Construct) :
    ∀ k ∈ (settle strength e around).2.head?, k.strength < strength := by
  induction around generalizing e with
  | nil => simp [settle]
  | cons k around ih =>
    rw [settle]
    split
    · exact ih _
    · rename_i hk
      simpa using hk

/-- Only groups hold with no strength at all. -/
theorem eq_group_of_strength_lt {k : Construct} (h : k.strength < 1) :
    ∃ offset, k = .group offset := by
  cases k with
  | signed sign offset => simp [strength] at h
  | joined op left => cases op <;> simp [strength, Operator.priority] at h
  | group offset => exact ⟨offset, rfl⟩

/-- Behind signs, the first operand of a chain leaves its crumb. -/
theorem escape_true {current : Token} {around : List Construct}
    (h : ∀ k ∈ around.head?, k.strength < 3) (f : Failure) :
    escape current true around f =
      escape current false around (f.note (.firstOperand current)) := by
  cases around with
  | nil => rfl
  | cons k around =>
    cases k with
    | signed sign offset => exact absurd (h _ rfl) (by simp [strength])
    | joined op left => rfl
    | group offset => rfl

end Construct

namespace Partial

variable {limit : Nat} {p p' : Partial} {c : Cursor} {e : Expr} {around : List Construct}

theorem next_group {t : Token} (h : t.isSymbol "(" = true) (around : List Construct) :
    (awaiting around).next t = some (awaiting (.group t.pos :: around)) := by
  simp [next, Token.isNumber_of_isSymbol h, h]

theorem next_sign {t : Token} {sign : Sign} (h : t.isSymbol sign.text = true)
    (around : List Construct) :
    (awaiting around).next t = some (awaiting (.signed sign t.pos :: around)) := by
  have hopen : t.isSymbol "(" = false := Token.isSymbol_of_ne h (by cases sign <;> decide)
  simp [next, Token.isNumber_of_isSymbol h, hopen, Token.sign?_eq_some.mpr h]

/-- The end of the text leads nowhere. -/
theorem next_finish (p : Partial) (finish : Nat) : p.next (.finish finish) = none := by
  cases p <;> rfl

theorem read_of_exceeds (h : p.exceeds limit = true) (ts : List Token) (finish : Nat) :
    p.read limit ts finish = .error .tooDeep := by
  cases ts <;> simp [read, h]

theorem read_of_next (hd : p.exceeds limit = false) (h : p.next c.current = some p') :
    p.read limit c.rest c.finish = p'.read limit c.advance.rest c.advance.finish := by
  obtain ⟨rest, finish⟩ := c
  cases rest with
  | nil =>
    rw [show (Cursor.mk [] finish).current = .finish finish from rfl, next_finish] at h
    cases h
  | cons t ts =>
    replace h : p.next t = some p' := h
    simp [read, hd, h, Cursor.advance]

theorem read_of_next_eq_none (hd : p.exceeds limit = false) (h : p.next c.current = none)
    (hend : c.rest = [] → p.complete? = none) :
    p.read limit c.rest c.finish = .error (.failed (p.objection c.current) c.current) := by
  obtain ⟨rest, finish⟩ := c
  cases rest with
  | nil => simp [read, hd, hend rfl, Cursor.current]
  | cons t ts =>
    replace h : p.next t = none := h
    simp [read, hd, h, Cursor.current]

/-- A construct that holds on to its operand against the next token may be completed right away. -/
theorem read_settle {k : Construct} (hk : 1 ≤ k.strength)
    (hc : c.current.priority ≤ k.strength) :
    (holding e (k :: around)).read limit c.rest c.finish =
      (holding (k.complete e) around).read limit c.rest c.finish := by
  have hone : settle 1 e (k :: around) = settle 1 (k.complete e) around := settle_cons_of_le hk
  have hobjection : ∀ t, (holding e (k :: around)).objection t =
      (holding (k.complete e) around).objection t := by
    intro t
    simp only [objection, hone]
  obtain ⟨rest, finish⟩ := c
  cases rest with
  | nil => simp only [read, exceeds, complete?, hone, hobjection, Bool.false_eq_true, if_false]
  | cons t ts =>
    have hnext : (holding e (k :: around)).next t = (holding (k.complete e) around).next t := by
      simp only [next]
      cases hop : t.operator? with
      | none => simp only [hone]
      | some op =>
        have hp : op.priority ≤ k.strength := by
          rw [← Token.priority_of_isSymbol (Token.operator?_eq_some.mp hop)]
          exact hc
        simp only [settle_cons_of_le hp]
    simp only [read, exceeds, hnext, hobjection, Bool.false_eq_true, if_false]

end Partial

/-! ## Where a chain ends -/

namespace Descent

/-- No operator follows an expression. -/
theorem operator?_of_expression {n : Nat} {c c' : Cursor} {e : Expr}
    (h : expression .tree n c = .ok (e, c')) : c'.current.operator? = none := by
  cases n with
  | zero => cases h
  | succ n =>
    have hlt := chain_priority_lt (Nat.le_refl 1) h
    cases hop : c'.current.operator? with
    | none => rfl
    | some op =>
      rw [Token.priority, hop] at hlt
      cases op <;> simp [Operator.priority] at hlt

/-! ## The descent from the left -/

/-- Go on from the left behind a rule of the descent, whose constructs around it are given. -/
def resume (limit : Nat) (first : Bool) (around : List Construct) :
    Step Expr → Except Stop Expr
  | .ok (e, c) => (Partial.holding e around).read limit c.rest c.finish
  | .error .tooDeep => .error .tooDeep
  | .error (.failed f t) => .error (.failed (escape t first around f) t)

variable {limit n : Nat} {around : List Construct}

/-- Reading from the left is going on behind each rule of the descent that is entered with the
budget `n`. A rule is entered for some constructs around it, and the budget is what these leave of
the limit, counted from the rule that reads a signed operand. -/
structure FollowsAt (limit n : Nat) : Prop where
  expression : ∀ around c, n + costOfAll around = limit + 4 →
    (∀ k ∈ around.head?, k.strength < 1) →
    (Partial.awaiting around).read limit c.rest c.finish =
      resume limit false around (expression .tree n c)
  chain : ∀ lowest around c, n + costOfAll around = limit + 3 → 1 ≤ lowest → lowest ≤ 3 →
    (∀ k ∈ around.head?, k.strength < lowest) →
    (Partial.awaiting around).read limit c.rest c.finish =
      resume limit false around (chain .tree n lowest c)
  signed : ∀ around c, n + costOfAll around = limit + 2 →
    (Partial.awaiting around).read limit c.rest c.finish =
      resume limit true around (signed .tree n c)
  primary : ∀ around c, n + costOfAll around = limit + 1 → c.current.sign? = none →
    (Partial.awaiting around).read limit c.rest c.finish =
      resume limit true around (primary .tree n c)

theorem read_tooDeep (h : limit < costOfAll around) (c : Cursor) :
    (Partial.awaiting around).read limit c.rest c.finish = .error .tooDeep :=
  Partial.read_of_exceeds (by simpa [Partial.exceeds] using h) _ _

theorem not_exceeds (h : costOfAll around ≤ limit) :
    (Partial.awaiting around).exceeds limit = false := by
  simpa [Partial.exceeds] using h

theorem FollowsAt.gather {strength : Nat} (hn : FollowsAt limit n)
    (hcost : n + costOfAll around = limit + 2) (h1 : 1 ≤ strength) (h2 : strength ≤ 2)
    (haround : ∀ k ∈ around.head?, k.strength < strength) (links : List Token) (left : Expr)
    (c : Cursor) (hl : c.rest.length ≤ links.length) :
    (Partial.holding left around).read limit c.rest c.finish = resume limit false around
      (gather .tree (Descent.chain .tree n (strength + 1)) strength links left c) := by
  induction links generalizing left c with
  | nil => rfl
  | cons t links ih =>
    simp only [Descent.gather]
    cases hop : c.current.operator? with
    | none => rfl
    | some op =>
      by_cases hp : op.priority = strength
      · simp only [hp, if_true]
        have hnext : (Partial.holding left around).next c.current =
            some (.awaiting (.joined op left :: around)) := by
          simp only [Partial.next, hop, hp, settle_eq_self left haround]
        have hjoined : n + costOfAll (.joined op left :: around) = limit + 3 := by
          simp only [costOfAll, Construct.cost] at hcost ⊢
          omega
        rw [Partial.read_of_next rfl hnext, hn.chain (strength + 1) _ _ hjoined (by omega)
          (by omega) (by simp [Construct.strength, hp])]
        cases hx : Descent.chain .tree n (strength + 1) c.advance with
        | error stop => cases stop <;> rfl
        | ok r =>
          obtain ⟨x, c₁⟩ := r
          have hlt := chain_priority_lt (by omega) hx
          have hle := ((advances .tree n).chain _ _ _ _ hx).length_le
          have hadv : c.advance.rest.length = c.rest.length - 1 := List.length_tail
          rw [List.length_cons] at hl
          show (Partial.holding x (.joined op left :: around)).read limit c₁.rest c₁.finish = _
          rw [Partial.read_settle (by simp [Construct.strength, hp, h1])
            (by simp only [Construct.strength, hp]; omega)]
          exact ih _ _ (by omega)
      · simp only [hp, if_false]
        rfl

theorem FollowsAt.levels {lowest : Nat} (hn : FollowsAt limit n)
    (hcost : n + costOfAll around = limit + 2)
    (haround : ∀ k ∈ around.head?, k.strength < lowest) (strength : Nat) (hs : strength ≤ 2)
    (left : Expr) (c : Cursor) :
    (Partial.holding left around).read limit c.rest c.finish = resume limit false around
      (levels .tree (Descent.chain .tree n) lowest strength left c) := by
  induction strength generalizing left c with
  | zero => rfl
  | succ strength ih =>
    simp only [Descent.levels]
    split
    · rfl
    · have hhead : ∀ k ∈ around.head?, k.strength < strength + 1 := by
        intro k hk
        have := haround k hk
        omega
      rw [hn.gather hcost (by omega) hs hhead _ left c (Nat.le_refl _)]
      cases Descent.gather .tree (Descent.chain .tree n (strength + 2)) (strength + 1)
          c.rest left c with
      | error stop => cases stop <;> rfl
      | ok r => exact ih (by omega) r.1 r.2

theorem FollowsAt.chain_succ {lowest : Nat} (hn : FollowsAt limit n)
    (hcost : n + 1 + costOfAll around = limit + 3) (hlowest : 1 ≤ lowest) (hthree : lowest ≤ 3)
    (haround : ∀ k ∈ around.head?, k.strength < lowest) (c : Cursor) :
    (Partial.awaiting around).read limit c.rest c.finish =
      resume limit false around (Descent.chain .tree (n + 1) lowest c) := by
  have hfirst : ∀ k ∈ around.head?, k.strength < 3 := by
    intro k hk
    have := haround k hk
    omega
  rw [hn.signed around c (by omega)]
  simp only [Descent.chain]
  cases Descent.signed .tree n c with
  | ok r =>
    exact hn.levels (by omega) haround _ (Token.priority_le_two _) r.1 r.2
  | error stop =>
    cases stop with
    | tooDeep => rfl
    | failed f t => simp only [resume, noting_failed, andThen_error, escape_true hfirst]

theorem FollowsAt.signed_succ (hn : FollowsAt limit n)
    (hcost : n + 1 + costOfAll around = limit + 2) (c : Cursor) :
    (Partial.awaiting around).read limit c.rest c.finish =
      resume limit true around (Descent.signed .tree (n + 1) c) := by
  simp only [Descent.signed]
  cases hsign : c.current.sign? with
  | none => exact hn.primary around c (by omega) hsign
  | some sign =>
    cases n with
    | zero => exact read_tooDeep (by omega) c
    | succ n =>
      have ht := Token.sign?_eq_some.mp hsign
      have hnext := Partial.next_sign ht around
      have hsigned : n + 1 + costOfAll (.signed sign c.current.pos :: around) = limit + 2 := by
        simp only [costOfAll, Construct.cost] at hcost ⊢
        omega
      rw [Partial.read_of_next (not_exceeds (by omega)) hnext, hn.signed _ _ hsigned]
      cases Descent.signed .tree (n + 1) c.advance with
      | error stop => cases stop <;> rfl
      | ok r =>
        -- a sign holds its operand against every operator
        have hle := Token.priority_le_two r.2.current
        exact Partial.read_settle (by simp [Construct.strength])
          (by simp [Construct.strength]; omega)

theorem FollowsAt.primary_succ (hn : FollowsAt limit n)
    (hcost : n + 1 + costOfAll around = limit + 1) (c : Cursor) (hsign : c.current.sign? = none) :
    (Partial.awaiting around).read limit c.rest c.finish =
      resume limit true around (Descent.primary .tree (n + 1) c) := by
  have hdeep : (Partial.awaiting around).exceeds limit = false := not_exceeds (by omega)
  simp only [Descent.primary]
  by_cases hnum : c.current.isNumber = true
  · simp only [hnum, if_true]
    cases hx : numberValue c.current.text with
    | ok x =>
      exact Partial.read_of_next hdeep (by simp [Partial.next, hnum, hx]; rfl)
    | error cause =>
      rw [Partial.read_of_next_eq_none hdeep (by simp [Partial.next, hnum, hx]) fun _ => rfl]
      simp [resume, Partial.objection, Partial.misplaced, hnum, hx]
  · by_cases hopen : c.current.isSymbol "(" = true
    · simp only [hnum, hopen, if_true, Bool.false_eq_true, if_false]
      have hnext := Partial.next_group hopen around
      have hgroup : n + costOfAll (.group c.current.pos :: around) = limit + 4 := by
        simp only [costOfAll, Construct.cost] at hcost ⊢
        omega
      rw [Partial.read_of_next hdeep hnext,
        hn.expression _ _ hgroup (by simp [Construct.strength])]
      cases hx : Descent.expression .tree n c.advance with
      | error stop => cases stop <;> rfl
      | ok r =>
        obtain ⟨x, c₁⟩ := r
        show (Partial.holding x (.group c.current.pos :: around)).read limit c₁.rest c₁.finish =
          resume limit true around (if c₁.current.isSymbol ")" then .ok (x, c₁.advance)
            else .error (.failed (.atPos (.unclosed c₁.current) c₁.current.pos) c₁.current))
        have hsettle : settle 1 x (.group c.current.pos :: around) =
            (x, .group c.current.pos :: around) := settle_eq_self x (by simp [Construct.strength])
        by_cases hclose : c₁.current.isSymbol ")" = true
        · rw [if_pos hclose]
          refine Partial.read_of_next rfl ?_
          have hop := Token.operator?_of_isSymbol_close hclose
          simp [Partial.next, hop, hclose, hsettle]
        · rw [if_neg hclose, Partial.read_of_next_eq_none rfl]
          · simp only [resume, Partial.objection, hsettle]
          · have hop := operator?_of_expression hx
            simp [Partial.next, hop, hclose]
          · intro _
            simp [Partial.complete?, hsettle]
    · simp only [hnum, hopen, Bool.false_eq_true, if_false]
      rw [Partial.read_of_next_eq_none hdeep (by simp [Partial.next, hnum, hopen, hsign])
        fun _ => rfl]
      simp [resume, Partial.objection, Partial.misplaced, hnum]

theorem followsAt (limit n : Nat) : FollowsAt limit n := by
  induction n with
  | zero =>
    refine ⟨?_, ?_, ?_, ?_⟩
    · intro around c hcost _
      exact read_tooDeep (by omega) c
    · intro lowest around c hcost _ _ _
      exact read_tooDeep (by omega) c
    · intro around c hcost
      exact read_tooDeep (by omega) c
    · intro around c hcost _
      exact read_tooDeep (by omega) c
  | succ n ih =>
    refine ⟨?_, ?_, ?_, ?_⟩
    · intro around c hcost haround
      exact ih.chain 1 around c (by omega) (Nat.le_refl 1) (by omega) haround
    · intro lowest around c hcost hlowest hthree haround
      exact ih.chain_succ hcost hlowest hthree haround c
    · intro around c hcost
      exact ih.signed_succ hcost c
    · intro around c hcost hsign
      exact ih.primary_succ hcost c hsign

/-- Behind an expression on its own, the end must follow. -/
theorem read_of_expression {limit n : Nat} {c c' : Cursor} {e : Expr}
    (h : expression .tree n c = .ok (e, c')) :
    (Partial.holding e []).read limit c'.rest c'.finish =
      if c'.atEnd then .ok e
      else .error (.failed (.atPos (.unexpected c'.current) c'.current.pos) c'.current) := by
  have hop := operator?_of_expression h
  obtain ⟨rest, finish⟩ := c'
  cases rest with
  | nil => rfl
  | cons t ts =>
    replace hop : t.operator? = none := hop
    simp [Partial.read, Partial.exceeds, Partial.next, hop, settle, Partial.objection,
      Cursor.atEnd, Cursor.current]

/-- How much the constructs around an operand may cost: the operand itself, the chain that it begins
and the expression around that take the rest of the budget. -/
def nestingLimit : Nat := budget - 4

/-- **The descent is the reading from the left**: on every list of tokens, both come to the same
tree, to the same failure, or to too deep a nesting. -/
theorem wholeText_eq_read (c : Cursor) :
    wholeText .tree c = Partial.start.read nestingLimit c.rest c.finish := by
  rw [Partial.start, (followsAt nestingLimit budget).expression [] c rfl (by simp)]
  simp only [wholeText]
  cases hx : expression .tree budget c with
  | error stop => cases stop <;> rfl
  | ok r => exact (read_of_expression hx).symm

end Descent

end Calculator
