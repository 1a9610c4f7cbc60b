import Calculator.Proofs.Nearest
import Calculator.Proofs.Parentheses

/-!
# Writing and reading settle after one round

Whatever is parsed and written is written in the same way once more when it is read again: the first
round drops the groups that the tree does not force and rounds the numbers to two places, and the
second finds nothing left to change.
-/

namespace Calculator

namespace Expr

/-- Trees whose numbers are written alike are written alike. -/
theorem fold_phrase_mapLiterals {f : Binary64 → Binary64} {e : Expr}
    (h : ∀ x ∈ e.literals, (f x).fixedText 2 false = x.fixedText 2 false) :
    (e.mapLiterals f).fold .phrase = e.fold .phrase := by
  induction e with
  | literal x =>
    have hx := h x (by simp [literals])
    show Except.ok (Phrase.mk ((f x).fixedText 2 false) Phrase.atomStrength) = .ok ⟨_, _⟩
    rw [hx]
  -- what is written at a node depends on its mark and on the texts of its operands alone
  | unary m e ih =>
    rw [mapLiterals, fold, fold, ih h]
    rfl
  | binary m l r ihl ihr =>
    simp only [literals, List.mem_append] at h
    rw [mapLiterals, fold, fold, ihl fun x hx => h x (.inl hx), ihr fun x hx => h x (.inr hx)]
    rfl
  | foreign kind => rfl

/-- A tree without an undefined number equals itself. -/
theorem sameAs_self {e : Expr} (h : ∀ x ∈ e.literals, x.isFinite = true) :
    e.sameAs e = true := by
  induction e with
  | literal x =>
    have hnan := Binary64.isNaN_eq_false (h x (by simp [literals]))
    simp [sameAs, Binary64.sameValue, hnan]
  | unary m e ih => simp [sameAs, ih h]
  | binary m l r ihl ihr =>
    simp only [literals, List.mem_append] at h
    simp [sameAs, ihl fun x hx => h x (.inl hx), ihr fun x hx => h x (.inr hx)]
  | foreign kind => simp [sameAs]

end Expr

/-- **One round of writing and reading reaches a fixed point.** Whatever text was parsed, the text
of its tree is parsed, the tree that it has is written as the same text, and that is parsed to an
equal tree. In particular a finite number without sign, written with two places and read again, is
written with the same places. -/
theorem format_parse_settles :
    (∀ s e, parse s = .ok e → ∃ f₁ e₂ f₂ e₃, e.format = .ok f₁ ∧
      parse (.text f₁.toList) = .ok e₂ ∧ e₂.format = .ok f₂ ∧ f₂ = f₁ ∧
      parse (.text f₂.toList) = .ok e₃ ∧ e₃ = e₂ ∧ e₃.sameAs e₂ = true) ∧
    (∀ x : Binary64, x.isFinite = true → x.negative = false →
      ∃ y, Descent.numberValue (x.fixedText 2 false) = .ok y ∧
        y.fixedText 2 false = x.fixedText 2 false) := by
  refine ⟨?_, ?_⟩
  · intro s e h
    obtain ⟨-, hliterals⟩ := (spells_iff.mp (spells_of_parse h)).supported
    obtain ⟨text, hformat, hparse, -, -⟩ := format_of_parse h
    have hagain : (e.mapLiterals Binary64.reread).format = .ok text := by
      rw [Expr.format, Expr.walk_eq_fold, Expr.fold_phrase_mapLiterals, ← Expr.walk_eq_fold]
      · exact hformat
      · intro x hx
        exact Binary64.fixedText_reread (hliterals x hx).1 (hliterals x hx).2
    obtain ⟨-, hrounded⟩ := (spells_iff.mp (spells_of_parse hparse)).supported
    exact ⟨text, _, text, _, hformat, hparse, hagain, rfl, hparse, rfl,
      Expr.sameAs_self fun x hx => (hrounded x hx).1⟩
  · intro x hfinite hsign
    have hvalue := Binary64.numberValue_abs hfinite
    rw [Binary64.abs_of_not_negative hsign] at hvalue
    exact ⟨x.reread, hvalue, Binary64.fixedText_reread hfinite hsign⟩

/-- `(0.125)*((2.675))` is written with its numbers rounded to `0.12` and `2.67`, one of them a half
that goes to the even neighbour; and the number next to `2 ^ 50`, where hundredths are finer than
the numbers are, is written again as it was. -/
theorem format_parse_settles_product :
    (∃ f₁ e₂, parse (.text f₁.toList) = .ok e₂ ∧ e₂.format = .ok f₁ ∧
      (Expr.binary (.known .mul) (.literal ⟨0x3FC0000000000000⟩)
        (.literal ⟨0x4005666666666666⟩)).format = .ok f₁) ∧
    ∃ y, Descent.numberValue
        (Binary64.fixedText ⟨0x4310000000000001⟩ 2 false) = .ok y ∧
      y.fixedText 2 false = Binary64.fixedText ⟨0x4310000000000001⟩ 2 false := by
  refine ⟨?_, format_parse_settles.2 _ (by decide +kernel) (by decide +kernel)⟩
  obtain ⟨f₁, e₂, _, _, hformat, hparse, hagain, rfl, -⟩ := format_parse_settles.1
    (.text ['(', '0', '.', '1', '2', '5', ')', '*', '(', '(', '2', '.', '6', '7', '5', ')', ')'])
    (.binary (.known .mul) (.literal ⟨0x3FC0000000000000⟩) (.literal ⟨0x4005666666666666⟩))
    (by decide +kernel)
  exact ⟨_, e₂, hparse, hagain, hformat⟩

end Calculator
