import Calculator.Proofs.Strengths

/-!
# Climbing

A chain has a shorter reading than the one by strengths: behind its first operand, a single loop
takes one operator after the other, in whatever order strong and weak ones come, as long as they are
strong enough for the chain, and reads the operand of each one strength above it. `climbingChain` is
a chain with that loop in place of the one that only ever goes down.

Both read alike (`chain_eq_climbingChain`). Going down is enough because a right operand, which is a
chain one strength above its operator, never leaves an operator in front that is stronger than the
last.
-/

namespace Calculator

namespace Descent

variable {α : Type} {b : Builder α}

/-! ## The climb -/

/-- Behind an operand: each operator that is at least as strong as `lowest` joins what was gathered
with what `right` reads one strength above it. The list `links` only bounds the loop. -/
def climb (b : Builder α) (right : Nat → Cursor → Step α) (lowest : Nat) :
    List Token → α → Cursor → Step α
  | [], left, c => .ok (left, c)
  | _ :: links, left, c =>
    match c.current.operator? with
    | none => .ok (left, c)
    | some op =>
      if lowest ≤ op.priority then
        andThen (noting (.rightOperand op) (right (op.priority + 1) c.advance)) fun x c' =>
          andThen (built c' (b.binary c'.current op left x)) fun y c'' =>
            climb b right lowest links y c''
      else .ok (left, c)

/-- A chain that climbs: a signed operand and then the climb, whose right operands are such chains
again. -/
def climbingChain (b : Builder α) : Nat → Nat → Cursor → Step α
  | 0, _, _ => .error .tooDeep
  | budget + 1, lowest, c =>
    andThen (noting .firstOperand (signed b budget c)) fun left c' =>
      climb b (climbingChain b budget) lowest c'.rest left c'

/-! ## One loop for the other -/

theorem climb_stop {right : Nat → Cursor → Step α} {lowest : Nat} (links : List Token) {e : α}
    {c : Cursor} (h : c.current.priority < lowest) :
    climb b right lowest links e c = .ok (e, c) := by
  cases links with
  | nil => rfl
  | cons t links =>
    simp only [climb]
    split
    · rfl
    · rename_i op hop
      have hp := Token.priority_of_isSymbol (Token.operator?_eq_some.mp hop)
      rw [if_neg (by omega)]

/-- **Going down is climbing**, if both read the same right operands, and no right operand leaves
an operator in front that it could have taken. The induction is on the tokens that are left. -/
theorem levels_eq_climb {right right' : Nat → Cursor → Step α} {lowest : Nat}
    (hlowest : 1 ≤ lowest) (hsame : ∀ p c, 1 ≤ p → right p c = right' p c)
    (hright : ∀ p c e c', 1 ≤ p → right p c = .ok (e, c') →
      c'.current.priority < p ∧ c'.rest.length ≤ c.rest.length)
    (links : List Token) (left : α) (c : Cursor) (hl : c.rest.length ≤ links.length) :
    levels b right lowest c.current.priority left c = climb b right' lowest links left c := by
  induction links generalizing left c with
  | nil =>
    obtain ⟨rest, finish⟩ := c
    obtain rfl := List.eq_nil_of_length_eq_zero (Nat.le_zero.mp hl)
    rfl
  | cons t links ih =>
    by_cases hc : c.current.priority < lowest
    · rw [levels_stop _ hc, climb_stop _ hc]
    · obtain ⟨op, hop⟩ : ∃ op, c.current.operator? = some op := by
        cases hop : c.current.operator? with
        | none =>
          rw [Token.priority, hop] at hc
          exact absurd hlowest hc
        | some op => exact ⟨op, rfl⟩
      have hp := Token.priority_of_isSymbol (Token.operator?_eq_some.mp hop)
      have hle : lowest ≤ op.priority := by omega
      rw [hp, levels_turn (fun c e c' h => (hright _ c e c' (by omega) h).2) hop hle]
      simp only [climb, hop, if_pos hle]
      rw [← hsame _ _ (by omega)]
      cases hx : right (op.priority + 1) c.advance with
      | error stop => cases stop <;> rfl
      | ok r =>
        obtain ⟨x, c₁⟩ := r
        obtain ⟨hlt, hshort⟩ := hright _ _ _ _ (by omega) hx
        rw [noting_ok, andThen_ok, andThen_ok]
        cases hy : built c₁ (b.binary c₁.current op left x) with
        | error stop => rfl
        | ok r =>
          obtain ⟨y, c₂⟩ := r
          obtain ⟨-, rfl⟩ := built_eq_ok.mp hy
          have hadv : c.advance.rest.length = c.rest.length - 1 := List.length_tail
          rw [List.length_cons] at hl
          -- the next operator is no stronger than this one, so going down from here loses nothing
          rw [andThen_ok, andThen_ok, ← levels_start (Nat.le_of_lt_succ hlt)]
          exact ih y c₁ (by omega)

/-! ## Chains -/

theorem chain_climbs (b : Builder α) (n : Nat) {lowest : Nat} (hlowest : 1 ≤ lowest)
    (c : Cursor) : chain b n lowest c = climbingChain b n lowest c := by
  induction n generalizing lowest c with
  | zero => rfl
  | succ n ih =>
    simp only [chain, climbingChain]
    congr 1
    funext left c'
    refine levels_eq_climb hlowest (fun p c hp => ih hp c) ?_ _ left c' (Nat.le_refl _)
    intro p c e c' hp h
    exact ⟨chain_priority_lt hp h, ((advances b n).chain _ _ _ _ h).length_le⟩

/-- **The loop over strengths is the climb.** From every cursor, whatever is built, a chain of
strength one or more comes to the same as the chain that climbs: to the same answer with the same
tokens left, or to the same failure with the same trail. Where it comes to an answer, its first
token is used up, and the next one binds less strongly than was asked for. -/
theorem chain_eq_climbingChain (b : Builder α) (n lowest : Nat) (c : Cursor)
    (hlowest : 1 ≤ lowest) :
    chain b n lowest c = climbingChain b n lowest c ∧
      ∀ e c', chain b n lowest c = .ok (e, c') →
        c'.current.priority < lowest ∧ ∃ ts, c.Spans (c.current :: ts) c' := by
  refine ⟨chain_climbs b n hlowest c, ?_⟩
  intro e c' h
  exact ⟨chain_priority_lt hlowest h, (advances b n).chain _ _ _ _ h⟩

/-- In `2*3-1*4`, a chain of strength two ends in front of the difference. -/
theorem chain_eq_climbingChain_product :
    climbingChain .tree 9 2 (.ofSource (.text "2*3-1*4".toList)) = .ok
        (.binary (.known .mul) (.literal ⟨0x4000000000000000⟩) (.literal ⟨0x4008000000000000⟩),
          ⟨[⟨.symbol, "-", 3⟩, ⟨.whole, "1", 4⟩, ⟨.symbol, "*", 5⟩, ⟨.whole, "4", 6⟩], 7⟩) ∧
      (Token.mk .symbol "-" 3).priority < 2 := by
  obtain ⟨hclimb, hends⟩ := chain_eq_climbingChain .tree 9 2
    (.ofSource (.text "2*3-1*4".toList)) (by decide)
  have hchain : chain .tree 9 2 (.ofSource (.text "2*3-1*4".toList)) = .ok
      (.binary (.known .mul) (.literal ⟨0x4000000000000000⟩) (.literal ⟨0x4008000000000000⟩),
        ⟨[⟨.symbol, "-", 3⟩, ⟨.whole, "1", 4⟩, ⟨.symbol, "*", 5⟩, ⟨.whole, "4", 6⟩], 7⟩) := by
    decide +kernel
  exact ⟨hclimb.symm.trans hchain, (hends _ _ hchain).1⟩

end Descent

end Calculator
