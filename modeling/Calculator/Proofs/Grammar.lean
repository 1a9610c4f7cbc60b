import Calculator.Parsing.Descent
import Calculator.Proofs.Tokens

/-!
# The grammar

What an expression is, stated over token lists and without the descent: a sum is made of products,
a product of signed operands, a signed operand of signs and a primary, and a primary is a number or
a sum in parentheses. A sum or a product with several operands gathers from the left, parentheses
leave no node, and a number counts only if it has a value.

The four rules are told apart by an index, so that one induction on derivations covers them all.
-/

namespace Calculator

/-- The rules of the grammar, from the weakest binding to the strongest. -/
inductive Rule where
  | sum
  | product
  | signed
  | primary
deriving DecidableEq, Repr

/-- The tokens `ts` derive the tree `e` by a rule. A repetition, an operand and then operators
with one more operand each, is derived from its end: what stands before the last operator is
derived by the same rule and becomes the left operand. -/
inductive Derives : Rule → List Token → Expr → Prop where
  | term {ts : List Token} {e : Expr} (h : Derives .product ts e) : Derives .sum ts e
  | sum {ts us : List Token} {t : Token} {op : Operator} {l r : Expr} (hl : Derives .sum ts l)
      (hop : op = .add ∨ op = .sub) (ht : t.isSymbol op.text = true)
      (hr : Derives .product us r) : Derives .sum (ts ++ t :: us) (.binary (.known op) l r)
  | factor {ts : List Token} {e : Expr} (h : Derives .signed ts e) : Derives .product ts e
  | product {ts us : List Token} {t : Token} {op : Operator} {l r : Expr}
      (hl : Derives .product ts l) (hop : op = .mul ∨ op = .div)
      (ht : t.isSymbol op.text = true) (hr : Derives .signed us r) :
      Derives .product (ts ++ t :: us) (.binary (.known op) l r)
  | operand {ts : List Token} {e : Expr} (h : Derives .primary ts e) : Derives .signed ts e
  | signed {ts : List Token} {t : Token} {sign : Sign} {e : Expr}
      (ht : t.isSymbol sign.text = true) (h : Derives .signed ts e) :
      Derives .signed (t :: ts) (.unary (.known sign) e)
  | number {t : Token} {x : Binary64} (ht : t.isNumber = true)
      (hx : Descent.numberValue t.text = .ok x) : Derives .primary [t] (.literal x)
  | group {ts : List Token} {t u : Token} {e : Expr} (ht : t.isSymbol "(" = true)
      (h : Derives .sum ts e) (hu : u.isSymbol ")" = true) :
      Derives .primary (t :: ts ++ [u]) e

/-- A source spells a tree: read step by step, it gives tokens that derive the tree as a sum, and
then the end. -/
def Spells (s : Source) (e : Expr) : Prop :=
  ∃ ts finish, Lexer.Reads s ts finish ∧ Derives .sum ts e

theorem spells_iff {s : Source} {e : Expr} :
    Spells s e ↔ Derives .sum (Lexer.tokens s).1 e := by
  constructor
  · rintro ⟨ts, finish, hr, hd⟩
    rw [Lexer.reads_iff] at hr
    rwa [hr]
  · intro h
    exact ⟨_, _, Lexer.reads_tokens s, h⟩

/-! ## What a token writes

The descent asks a token for its operator, its sign and its strength; the grammar names symbols. -/

theorem Operator.one_le_priority (op : Operator) : 1 ≤ op.priority := by
  cases op <;> decide

theorem Operator.priority_le_two (op : Operator) : op.priority ≤ 2 := by
  cases op <;> decide

namespace Token

variable {t : Token}

theorem operator?_eq_some {op : Operator} : t.operator? = some op ↔ t.isSymbol op.text = true := by
  have hof : Operator.ofText? t.text = some op ↔ t.text = op.text := by
    simp only [Operator.ofText?]
    split
    · cases op <;> simp_all [Operator.text]
    · split
      · cases op <;> simp_all [Operator.text]
      · split
        · cases op <;> simp_all [Operator.text]
        · split
          · cases op <;> simp_all [Operator.text]
          · cases op <;> simp_all [Operator.text]
  by_cases hk : t.kind = .symbol
  · simp [operator?, isSymbol, hk, hof]
  · simp [operator?, isSymbol, hk]

theorem sign?_eq_some {sign : Sign} : t.sign? = some sign ↔ t.isSymbol sign.text = true := by
  have hof : Sign.ofText? t.text = some sign ↔ t.text = sign.text := by
    simp only [Sign.ofText?]
    split
    · cases sign <;> simp_all [Sign.text]
    · split
      · cases sign <;> simp_all [Sign.text]
      · cases sign <;> simp_all [Sign.text]
  by_cases hk : t.kind = .symbol
  · simp [sign?, isSymbol, hk, hof]
  · simp [sign?, isSymbol, hk]

theorem kind_of_isSymbol {s : String} (h : t.isSymbol s = true) : t.kind = .symbol := by
  simp only [isSymbol, Bool.and_eq_true, decide_eq_true_eq] at h
  exact h.1

theorem text_of_isSymbol {s : String} (h : t.isSymbol s = true) : t.text = s := by
  simp only [isSymbol, Bool.and_eq_true, decide_eq_true_eq] at h
  exact h.2

theorem priority_of_isSymbol {op : Operator} (h : t.isSymbol op.text = true) :
    t.priority = op.priority := by
  rw [priority, operator?_eq_some.mpr h]

theorem operator?_of_isSymbol_close (h : t.isSymbol ")" = true) : t.operator? = none := by
  simp [operator?, kind_of_isSymbol h, text_of_isSymbol h, Operator.ofText?]

theorem priority_of_isSymbol_close (h : t.isSymbol ")" = true) : t.priority = 0 := by
  rw [priority, operator?_of_isSymbol_close h]

theorem isNumber_of_isSymbol {s : String} (h : t.isSymbol s = true) : t.isNumber = false := by
  simp [isNumber, kind_of_isSymbol h]

theorem isSymbol_of_isNumber (h : t.isNumber = true) (s : String) : t.isSymbol s = false := by
  cases hs : t.isSymbol s with
  | false => rfl
  | true => rw [isNumber_of_isSymbol hs] at h; cases h

theorem isSymbol_of_ne {s s' : String} (h : t.isSymbol s = true) (hne : s ≠ s') :
    t.isSymbol s' = false := by
  simp [isSymbol, text_of_isSymbol h, hne]

theorem sign?_of_isNumber (h : t.isNumber = true) : t.sign? = none := by
  have hk : t.kind ≠ .symbol := by
    intro hk
    simp [isNumber, hk] at h
  simp [sign?, hk]

theorem sign?_of_isSymbol_open (h : t.isSymbol "(" = true) : t.sign? = none := by
  simp [sign?, kind_of_isSymbol h, text_of_isSymbol h, Sign.ofText?]

/-- Operators bind with strength one or two; everything else does not bind. -/
theorem priority_le_two (t : Token) : t.priority ≤ 2 := by
  rw [priority]
  split
  · exact Operator.priority_le_two _
  · exact Nat.zero_le 2

end Token

namespace Cursor

/-- Between the cursors `c` and `c'` stand the tokens `ts`. -/
def Spans (c : Cursor) (ts : List Token) (c' : Cursor) : Prop :=
  c.rest = ts ++ c'.rest ∧ c.finish = c'.finish

variable {c c' c'' : Cursor} {ts us : List Token}

theorem Spans.refl (c : Cursor) : c.Spans [] c := ⟨rfl, rfl⟩

theorem Spans.trans (h : c.Spans ts c') (h' : c'.Spans us c'') : c.Spans (ts ++ us) c'' := by
  refine ⟨?_, h.2.trans h'.2⟩
  rw [h.1, h'.1, List.append_assoc]

theorem Spans.length_le (h : c.Spans ts c') : c'.rest.length ≤ c.rest.length := by
  rw [h.1, List.length_append]
  omega

/-- A cursor that is not at the end stands before its token. -/
theorem spans_advance (h : c.current.kind ≠ .eof) : c.Spans [c.current] c.advance := by
  obtain ⟨rest, finish⟩ := c
  cases rest with
  | nil => exact absurd rfl h
  | cons t ts => exact ⟨rfl, rfl⟩

theorem spans_advance_of_isSymbol {s : String} (h : c.current.isSymbol s = true) :
    c.Spans [c.current] c.advance :=
  spans_advance (by rw [Token.kind_of_isSymbol h]; decide)

theorem spans_advance_of_isNumber (h : c.current.isNumber = true) :
    c.Spans [c.current] c.advance := by
  apply spans_advance
  intro hk
  simp [Token.isNumber, hk] at h

end Cursor

/-! ## Strengths and rules

The descent numbers the rules for chains by strength, and reads the right operand of an operator
one strength above it. -/

namespace Rule

/-- The rule for chains of a strength. -/
def ofStrength : Nat → Rule
  | 0 => .sum
  | 1 => .sum
  | 2 => .product
  | _ => .signed

end Rule

theorem Derives.weaken {p : Nat} {ts : List Token} {e : Expr}
    (h : Derives (.ofStrength (p + 1)) ts e) : Derives (.ofStrength p) ts e := by
  match p, h with
  | 0, h => exact h
  | 1, h => exact .term h
  | 2, h => exact .factor h
  | p + 3, h => exact h

theorem Derives.ofSigned {ts : List Token} {e : Expr} (h : Derives .signed ts e) (p : Nat) :
    Derives (.ofStrength p) ts e := by
  match p with
  | 0 => exact .term (.factor h)
  | 1 => exact .term (.factor h)
  | 2 => exact .factor h
  | p + 3 => exact h

/-- One more operator of the strength of the chain. -/
theorem Derives.link {ts us : List Token} {t : Token} {op : Operator} {l r : Expr}
    (hl : Derives (.ofStrength op.priority) ts l) (ht : t.isSymbol op.text = true)
    (hr : Derives (.ofStrength (op.priority + 1)) us r) :
    Derives (.ofStrength op.priority) (ts ++ t :: us) (.binary (.known op) l r) := by
  cases op with
  | add => exact .sum hl (.inl rfl) ht hr
  | sub => exact .sum hl (.inr rfl) ht hr
  | mul => exact .product hl (.inl rfl) ht hr
  | div => exact .product hl (.inr rfl) ht hr

end Calculator
