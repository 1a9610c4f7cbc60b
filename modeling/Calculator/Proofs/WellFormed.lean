import Calculator.Proofs.EagerRejection
import Calculator.Proofs.Inorder

/-!
# Trees that were parsed are well formed

A tree may carry marks that are no operators, foreign leaves, and numbers of any kind; the parser
builds none of these. What a walk has to say about them is therefore never said of a tree that was
parsed: such a tree has a size and a text, and the only thing that can go wrong with its value is a
division by zero. Which division that is can be read off the tree: one whose operands have values,
the right one zero.
-/

namespace Calculator

namespace Expr

/-- A tree is a node of another one, or the whole of it. -/
def HasNode (e node : Expr) : Prop := node ∈ e.visits.map Prod.fst

/-- A node as the parser builds it: a finite number without sign, or a sign or an operator over its
operands. -/
def WellFormedNode : Expr → Prop
  | literal x => x.isFinite = true ∧ x.isNaN = false ∧ x.negative = false
  | unary m _ => ∃ sign, m = .known sign
  | binary m _ _ => ∃ op, m = .known op
  | foreign _ => False

section HasNode

variable {e l r node : Expr}

@[simp] theorem hasNode_literal {x : Binary64} : (literal x).HasNode node ↔ node = literal x := by
  simp [HasNode, visits]

@[simp] theorem hasNode_unary {m : Mark Sign} :
    (unary m e).HasNode node ↔ e.HasNode node ∨ node = unary m e := by
  simp [HasNode, visits, under, Function.comp_def]

@[simp] theorem hasNode_binary {m : Mark Operator} :
    (binary m l r).HasNode node ↔
      l.HasNode node ∨ r.HasNode node ∨ node = binary m l r := by
  simp [HasNode, visits, under, Function.comp_def]

end HasNode

/-- Supported trees with finite numbers without sign have well-formed nodes and no others. -/
theorem wellFormedNode_of_supported {e : Expr} (hs : e.Supported)
    (hx : ∀ x ∈ e.literals, x.isFinite = true ∧ x.negative = false) {node : Expr}
    (h : e.HasNode node) : node.WellFormedNode := by
  induction e with
  | literal x =>
    rw [hasNode_literal.mp h]
    obtain ⟨hfinite, hsign⟩ := hx x (by simp [literals])
    exact ⟨hfinite, Binary64.isNaN_eq_false hfinite, hsign⟩
  | unary m e ih =>
    cases m with
    | other text => exact hs.elim
    | known sign =>
      rcases hasNode_unary.mp h with h | rfl
      · exact ih hs hx h
      · exact ⟨sign, rfl⟩
  | binary m l r ihl ihr =>
    cases m with
    | other text => exact hs.elim
    | known op =>
      simp only [literals, List.mem_append] at hx
      rcases hasNode_binary.mp h with h | h | rfl
      · exact ihl hs.1 (fun x hl => hx x (.inl hl)) h
      · exact ihr hs.2 (fun x hr => hx x (.inr hr)) h
      · exact ⟨op, rfl⟩
  | foreign kind => exact hs.elim

/-! ## Values -/

section Values

variable {ops : Arithmetic} {op : Operator} {e l r : Expr} {x y : Binary64}

/-- Arithmetic refuses nothing but a division by zero. -/
theorem exists_apply_iff (ops : Arithmetic) (op : Operator) (x y : Binary64) :
    (∃ z, op.apply ops x y = .ok z) ↔ (op = .div → y.isZero = false) := by
  cases op with
  | div => cases hy : y.isZero <;> simp [Operator.apply, hy]
  | _ => simp [Operator.apply]

/-- A tree has a value. -/
def Defined (ops : Arithmetic) (e : Expr) : Prop := ∃ x, e.fold (.value ops) = .ok x

theorem not_defined_of_undefined (h : Descent.Undefined ops e) : ¬ e.Defined ops := by
  rintro ⟨x, hx⟩
  obtain ⟨f, hf, -⟩ := h
  rw [hx] at hf
  cases hf

theorem defined_unary {sign : Sign} : (unary (.known sign) e).Defined ops ↔ e.Defined ops := by
  constructor
  · rintro ⟨x, hx⟩
    cases he : e.fold (.value ops) with
    | error fault => simp [fold, he] at hx
    | ok y => exact ⟨y, he⟩
  · rintro ⟨x, hx⟩
    exact ⟨sign.apply x, Descent.fold_unary hx sign⟩

/-- **A value or a division by zero**: nothing else comes of a tree of operators. -/
theorem defined_or_undefined (hs : e.Supported) : e.Defined ops ∨ Descent.Undefined ops e := by
  induction e with
  | literal x => exact .inl ⟨x, rfl⟩
  | unary m e ih =>
    cases m with
    | other text => exact hs.elim
    | known sign =>
      rcases ih hs with h | h
      · exact .inl (defined_unary.mpr h)
      · exact .inr (h.unary sign)
  | binary m l r ihl ihr =>
    cases m with
    | other text => exact hs.elim
    | known op =>
      rcases ihl hs.1 with ⟨x, hx⟩ | hl
      · rcases ihr hs.2 with ⟨y, hy⟩ | hr
        · cases happly : op.apply ops x y with
          | ok z => exact .inl ⟨z, Descent.fold_binary hx hy happly⟩
          | error cause => exact .inr (.node hx hy happly)
        · exact .inr (hr.right hx op)
      · exact .inr (hl.left op r)
  | foreign kind => exact hs.elim

/-- A node with an operator has a value just if both operands have one and it is not a division by
zero. -/
theorem defined_binary :
    (binary (.known op) l r).Defined ops ↔ ∃ x y, l.fold (.value ops) = .ok x ∧
      r.fold (.value ops) = .ok y ∧ (op = .div → y.isZero = false) := by
  constructor
  · rintro ⟨z, hz⟩
    cases hl : l.fold (.value ops) with
    | error fault => simp [fold, hl] at hz
    | ok x =>
      cases hr : r.fold (.value ops) with
      | error fault => simp [fold, hl, hr] at hz
      | ok y =>
        refine ⟨x, y, rfl, rfl, (exists_apply_iff ops op x y).mp ?_⟩
        simp only [fold, hl, hr, Descent.value_binary] at hz
        cases happly : op.apply ops x y with
        | ok z' => exact ⟨z', rfl⟩
        | error cause =>
          rw [happly] at hz
          cases hz
  · rintro ⟨x, y, hl, hr, hzero⟩
    obtain ⟨z, hz⟩ := (exists_apply_iff ops op x y).mpr hzero
    exact ⟨z, Descent.fold_binary hl hr hz⟩

/-- A node divides by zero: it is a division, both operands have values, and the right one is
zero. -/
def DividesHere (ops : Arithmetic) (node : Expr) : Prop :=
  ∃ l r x y, node = binary (.known .div) l r ∧ l.evaluate ops = .ok x ∧ r.evaluate ops = .ok y ∧
    y.isZero = true

/-- A tree of operators has a value just if none of its nodes divides by zero. -/
theorem defined_iff (hs : e.Supported) :
    e.Defined ops ↔ ∀ node, e.HasNode node → ¬ node.DividesHere ops := by
  induction e with
  | literal x => exact iff_of_true ⟨x, rfl⟩ (by simp [DividesHere])
  | unary m e ih =>
    cases m with
    | other text => exact hs.elim
    | known sign =>
      rw [defined_unary, ih hs]
      simp [or_imp, forall_and, DividesHere]
  | binary m l r ihl ihr =>
    cases m with
    | other text => exact hs.elim
    | known op =>
      constructor
      · intro h node hnode
        obtain ⟨x, y, hl, hr, hzero⟩ := defined_binary.mp h
        rcases hasNode_binary.mp hnode with hnode | hnode | rfl
        · exact (ihl hs.1).mp ⟨x, hl⟩ node hnode
        · exact (ihr hs.2).mp ⟨y, hr⟩ node hnode
        · rintro ⟨l', r', x', y', heq, -, hr', hzero'⟩
          cases heq
          rw [evaluate_eq_fold, hr] at hr'
          cases hr'
          rw [hzero rfl] at hzero'
          cases hzero'
      · intro hall
        obtain ⟨x, hl⟩ := (ihl hs.1).mpr fun node h => hall node (hasNode_binary.mpr (.inl h))
        obtain ⟨y, hr⟩ :=
          (ihr hs.2).mpr fun node h => hall node (hasNode_binary.mpr (.inr (.inl h)))
        refine defined_binary.mpr ⟨x, y, hl, hr, ?_⟩
        rintro rfl
        by_contra hzero
        refine hall _ (hasNode_binary.mpr (.inr (.inr rfl))) ⟨l, r, x, y, rfl, ?_, ?_, ?_⟩
        · rw [evaluate_eq_fold, hl]
        · rw [evaluate_eq_fold, hr]
        · simpa using hzero
  | foreign kind => exact hs.elim

/-- A tree of operators comes to a division by zero just if one of its nodes is one. -/
theorem undefined_iff (hs : e.Supported) :
    Descent.Undefined ops e ↔ ∃ node, e.HasNode node ∧ node.DividesHere ops := by
  have hnot : Descent.Undefined ops e ↔ ¬ e.Defined ops :=
    ⟨not_defined_of_undefined, fun h => (defined_or_undefined hs).resolve_left h⟩
  rw [hnot, defined_iff hs]
  simp only [not_forall, not_not, exists_prop]

end Values

end Expr

/-- **Trees that were parsed are well formed**: their nodes are finite numbers without sign, signs
and operators. So such a tree has a size and a text; and it has a value or comes to a division by
zero, the latter just if one of its nodes is a division whose operands have values, the right one
zero of either sign. -/
theorem wellFormed_of_parse (s : Source) (e : Expr) (h : parse s = .ok e) :
    (∀ node, e.HasNode node → node.WellFormedNode) ∧
      (∃ n, e.size = .ok n) ∧ (∃ text, e.format = .ok text) ∧
      ∀ ops, ((∃ x, e.evaluate ops = .ok x) ∨ e.DividesByZero ops) ∧
        (e.DividesByZero ops ↔ ∃ l r x y, e.HasNode (.binary (.known .div) l r) ∧
          l.evaluate ops = .ok x ∧ r.evaluate ops = .ok y ∧ y.isZero = true) := by
  obtain ⟨hs, hx⟩ := (spells_iff.mp (spells_of_parse h)).supported
  refine ⟨fun node hnode => Expr.wellFormedNode_of_supported hs hx hnode, ?_, ?_, ?_⟩
  · exact ⟨_, Expr.size_eq hs⟩
  · obtain ⟨text, hformat, -⟩ := format_of_parse h
    exact ⟨text, hformat⟩
  · intro ops
    rw [Expr.dividesByZero_iff]
    refine ⟨?_, ?_⟩
    · simp only [Expr.evaluate_eq_fold]
      exact Expr.defined_or_undefined hs
    · rw [Expr.undefined_iff hs]
      constructor
      · rintro ⟨_, hnode, l, r, x, y, rfl, hl, hr, hzero⟩
        exact ⟨l, r, x, y, hnode, hl, hr, hzero⟩
      · rintro ⟨l, r, x, y, hnode, hl, hr, hzero⟩
        exact ⟨_, hnode, l, r, x, y, rfl, hl, hr, hzero⟩

/-- `1+2/(-0)` comes to a division by zero, whose divisor is the zero with its sign bit set; so the
sum is never asked for. -/
theorem wellFormed_of_parse_quotient :
    parse (.text "1+2/(-0)".toList) = .ok (.binary (.known .add) (.literal ⟨0x3FF0000000000000⟩)
        (.binary (.known .div) (.literal ⟨0x4000000000000000⟩)
          (.unary (.known .minus) (.literal ⟨0⟩)))) ∧
      (Expr.binary (.known .add) (.literal ⟨0x3FF0000000000000⟩)
        (.binary (.known .div) (.literal ⟨0x4000000000000000⟩)
          (.unary (.known .minus) (.literal ⟨0⟩)))).DividesByZero .machine := by
  have hparse : parse (.text "1+2/(-0)".toList) =
      .ok (.binary (.known .add) (.literal ⟨0x3FF0000000000000⟩)
        (.binary (.known .div) (.literal ⟨0x4000000000000000⟩)
          (.unary (.known .minus) (.literal ⟨0⟩)))) := by decide +kernel
  refine ⟨hparse, ((wellFormed_of_parse _ _ hparse).2.2.2 .machine).2.mpr ?_⟩
  refine ⟨.literal ⟨0x4000000000000000⟩, .unary (.known .minus) (.literal ⟨0⟩),
    ⟨0x4000000000000000⟩, ⟨0x8000000000000000⟩, ?_, ?_, ?_, ?_⟩
  · simp
  · rw [Expr.evaluate_eq_fold]
    rfl
  · rw [Expr.evaluate_eq_fold]
    rfl
  · decide

end Calculator
