import Calculator.Proofs.RoundTrip

/-!
# Trees that divide by numbers

The one thing that arithmetic refuses is a divisor that is zero. Where every divisor is a number, or
a signed number, that is not zero, a tree has a value under every interpretation of the operations:
what the interpretation makes of the other operands does not matter.
-/

namespace Calculator

/-- The sign does not make a number zero. -/
theorem Binary64.isZero_neg (x : Binary64) : x.neg.isZero = x.isZero := by
  have hmagnitude : x.neg.magnitude = x.magnitude := by
    show (x.bits ^^^ 0x8000000000000000).toNat % 2 ^ 63 = x.bits.toNat % 2 ^ 63
    rw [UInt64.toNat_xor, Nat.xor_mod_two_pow]
    exact Nat.xor_zero _
  rw [isZero, isZero, hmagnitude]

theorem Sign.isZero_apply (sign : Sign) (x : Binary64) : (sign.apply x).isZero = x.isZero := by
  cases sign with
  | plus => rfl
  | minus => exact x.isZero_neg

namespace Expr

/-- How many operators stand between two operands. -/
def joins : Expr → Nat
  | literal _ => 0
  | unary _ e => e.joins
  | binary _ l r => l.joins + r.joins + 1
  | foreign _ => 0

/-- A number or a signed number that is not zero. -/
def NonzeroNumber : Expr → Prop
  | literal x => x.isZero = false
  | unary (.known _) (literal x) => x.isZero = false
  | _ => False

/-- Every right operand of a division is a number or a signed number that is not zero. -/
def DividesByNumbers : Expr → Prop
  | literal _ => True
  | unary _ e => e.DividesByNumbers
  | binary m l r =>
    l.DividesByNumbers ∧ r.DividesByNumbers ∧ (m = .known .div → r.NonzeroNumber)
  | foreign _ => True

/-- A tree of operators that divides by numbers alone. -/
structure Safe (e : Expr) : Prop where
  supported : e.Supported
  divides : e.DividesByNumbers

theorem Safe.unary {e : Expr} (h : e.Safe) (sign : Sign) : (unary (.known sign) e).Safe :=
  ⟨h.supported, h.divides⟩

theorem Safe.binary {op : Operator} {l r : Expr} (hl : l.Safe) (hr : r.Safe)
    (hop : op = .div → r.NonzeroNumber) : (binary (.known op) l r).Safe :=
  ⟨⟨hl.supported, hr.supported⟩, hl.divides, hr.divides, fun h => hop (Mark.known.inj h)⟩

/-- Operators join the numbers of a tree to one. -/
theorem length_literals {e : Expr} (hs : e.Supported) : e.literals.length = e.joins + 1 := by
  induction e with
  | literal x => rfl
  | unary m e ih =>
    cases m with
    | known sign => exact ih hs
    | other text => exact hs.elim
  | binary m l r ihl ihr =>
    cases m with
    | known op =>
      rw [literals, List.length_append, ihl hs.1, ihr hs.2, joins]
      omega
    | other text => exact hs.elim
  | foreign kind => exact hs.elim

theorem NonzeroNumber.exists_value {e : Expr} (h : e.NonzeroNumber) (ops : Arithmetic) :
    ∃ x, e.fold (.value ops) = .ok x ∧ x.isZero = false := by
  cases e with
  | literal x => exact ⟨x, rfl, h⟩
  | unary m e =>
    cases m with
    | other text => exact h.elim
    | known sign =>
      cases e with
      | literal x => exact ⟨sign.apply x, rfl, by rw [sign.isZero_apply]; exact h⟩
      | unary m e => exact h.elim
      | binary m l r => exact h.elim
      | foreign kind => exact h.elim
  | binary m l r => exact h.elim
  | foreign kind => exact h.elim

/-- A tree that divides by numbers alone has a value. -/
theorem Safe.exists_value {e : Expr} (h : e.Safe) (ops : Arithmetic) :
    ∃ x, e.fold (.value ops) = .ok x := by
  obtain ⟨hs, hd⟩ := h
  induction e with
  | literal x => exact ⟨x, rfl⟩
  | unary m e ih =>
    cases m with
    | other text => exact hs.elim
    | known sign =>
      obtain ⟨x, hx⟩ := ih hs hd
      refine ⟨sign.apply x, ?_⟩
      simp only [fold, hx]
      rfl
  | binary m l r ihl ihr =>
    cases m with
    | other text => exact hs.elim
    | known op =>
      obtain ⟨hdl, hdr, hdiv⟩ := hd
      obtain ⟨x, hx⟩ := ihl hs.1 hdl
      obtain ⟨y, hy⟩ := ihr hs.2 hdr
      have happly : ∃ z, op.apply ops x y = .ok z := by
        cases op with
        | div =>
          obtain ⟨y', hy', hzero⟩ := (hdiv rfl).exists_value ops
          cases hy.symm.trans hy'
          exact ⟨ops.div x y, by simp [Operator.apply, hzero]⟩
        | _ => exact ⟨_, rfl⟩
      obtain ⟨z, hz⟩ := happly
      refine ⟨z, ?_⟩
      simp only [fold, hx, hy]
      show (op.apply ops x y).mapError Fault.ofCause = .ok z
      rw [hz]
      rfl
  | foreign kind => exact hs.elim

end Expr

end Calculator
