import Calculator.Number.Binary64

/-!
# Draws

Random expressions are made by a program that asks for random choices. The choices come from a
source that is a parameter: a state and three ways to draw from it. What is said of the program for
every source holds for every seed.
-/

namespace Calculator

/-- A source of random choices with states in `σ`. -/
structure Draws (σ : Type) where
  /-- An event of the given probability. -/
  chance : Float → σ → Bool × σ
  /-- A natural number below the given one. -/
  below : Nat → σ → Nat × σ
  /-- A number between one half and 999. -/
  amount : σ → Binary64 × σ

/-- One half, the least amount. -/
def Draws.leastAmount : Binary64 := .ofFloat 0.5

/-- 999, the greatest amount. -/
def Draws.greatestAmount : Binary64 := .ofFloat 999.0

/-- What may be relied on: a number that is drawn to be written lies in its range. -/
structure Draws.Lawful {σ : Type} (d : Draws σ) : Prop where
  below_lt : ∀ s, (d.below 999 s).1 < 999
  amount_ge : ∀ s, Draws.leastAmount.word ≤ (d.amount s).1.word
  amount_le : ∀ s, (d.amount s).1.word ≤ Draws.greatestAmount.word

end Calculator
