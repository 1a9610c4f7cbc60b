import Calculator.Parsing.Parse
import Calculator.Proofs.Budget
import Calculator.Proofs.Strengths

/-!
# The descent accepts its grammar

Two directions. What a rule of the descent reads is derived by the rule of the grammar
(`soundAt`), by induction on the budget. And what the grammar derives is read, with enough budget,
by induction on the derivation: a derivation of a chain from its end meets the descent, which reads
from the front, in `levels`, the loop over strengths. The statement for a chain is therefore that
reading it leads to the same loop behind it, with its tree as the left operand.

Both give that a text has the tree that the parser builds and no other.
-/

namespace Calculator.Descent

/-! ## What is read is derived -/

/-- Between the cursors `c` and `c'` stand tokens that derive `e`. -/
def Consumes (rule : Rule) (c : Cursor) (e : Expr) (c' : Cursor) : Prop :=
  ∃ ts, c.Spans ts c' ∧ Derives rule ts e

theorem gather_consumes {right : Cursor → Step Expr} {strength : Nat}
    (hright : ∀ c e c', right c = .ok (e, c') → Consumes (.ofStrength (strength + 1)) c e c')
    (links : List Token) {left e : Expr} {c₀ c c' : Cursor}
    (hleft : Consumes (.ofStrength strength) c₀ left c)
    (h : gather .tree right strength links left c = .ok (e, c')) :
    Consumes (.ofStrength strength) c₀ e c' := by
  induction links generalizing left c with
  | nil =>
    cases h
    exact hleft
  | cons t links ih =>
    simp only [gather] at h
    split at h
    · cases h
      exact hleft
    · rename_i op hop
      split at h
      · rename_i hp
        obtain ⟨x, c₁, hx, h⟩ := andThen_eq_ok.mp h
        obtain ⟨us, hus, hd⟩ := hright _ _ _ (noting_eq_ok.mp hx)
        obtain ⟨ts, hts, hl⟩ := hleft
        have ht := Token.operator?_eq_some.mp hop
        refine ih (c := c₁) ⟨ts ++ c.current :: us, ?_, ?_⟩ h
        · exact hts.trans ((Cursor.spans_advance_of_isSymbol ht).trans hus)
        · subst hp
          exact hl.link ht hd
      · cases h
        exact hleft

/-- Behind the strengths that were gone through, the tokens so far are a chain of the lowest. -/
theorem levels_consumes {right : Nat → Cursor → Step Expr} {lowest : Nat}
    (hright : ∀ p c e c', 1 ≤ p → right p c = .ok (e, c') → Consumes (.ofStrength p) c e c')
    (strength : Nat) {left e : Expr} {c₀ c c' : Cursor}
    (hleft : Consumes (.ofStrength (max lowest (strength + 1))) c₀ left c)
    (hlowest : 1 ≤ lowest)
    (h : levels .tree right lowest strength left c = .ok (e, c')) :
    Consumes (.ofStrength lowest) c₀ e c' := by
  induction strength generalizing left c with
  | zero =>
    cases h
    rwa [Nat.max_eq_left (by omega)] at hleft
  | succ strength ih =>
    simp only [levels] at h
    split at h
    · cases h
      rwa [Nat.max_eq_left (by omega)] at hleft
    · obtain ⟨x, c₁, hx, h⟩ := andThen_eq_ok.mp h
      rw [Nat.max_eq_right (by omega)] at hleft
      obtain ⟨ts, hts, hl⟩ := hleft
      refine ih (c := c₁) ?_ h
      rw [Nat.max_eq_right (by omega)]
      refine gather_consumes (fun c e c' hr => ?_) _ ⟨ts, hts, hl.weaken⟩ hx
      exact hright _ c e c' (by omega) hr

/-- What the rules of the descent read at a budget is derived. -/
structure SoundAt (n : Nat) : Prop where
  expression : ∀ c e c', expression .tree n c = .ok (e, c') → Consumes .sum c e c'
  chain : ∀ lowest c e c', 1 ≤ lowest → chain .tree n lowest c = .ok (e, c') →
    Consumes (.ofStrength lowest) c e c'
  signed : ∀ c e c', signed .tree n c = .ok (e, c') → Consumes .signed c e c'
  primary : ∀ c e c', primary .tree n c = .ok (e, c') → Consumes .primary c e c'

theorem SoundAt.chain_succ {n : Nat} (hn : SoundAt n) {lowest : Nat} {c c' : Cursor} {e : Expr}
    (hlowest : 1 ≤ lowest) (h : Descent.chain .tree (n + 1) lowest c = .ok (e, c')) :
    Consumes (.ofStrength lowest) c e c' := by
  simp only [Descent.chain] at h
  obtain ⟨x, c₁, hx, h⟩ := andThen_eq_ok.mp h
  obtain ⟨ts, hts, hd⟩ := hn.signed _ _ _ (noting_eq_ok.mp hx)
  exact levels_consumes hn.chain _ ⟨ts, hts, hd.ofSigned _⟩ hlowest h

theorem SoundAt.signed_succ {n : Nat} (hn : SoundAt n) {c c' : Cursor} {e : Expr}
    (h : Descent.signed .tree (n + 1) c = .ok (e, c')) : Consumes .signed c e c' := by
  simp only [Descent.signed] at h
  split at h
  · obtain ⟨ts, hts, hd⟩ := hn.primary _ _ _ h
    exact ⟨ts, hts, .operand hd⟩
  · rename_i sign hsign
    obtain ⟨x, c₁, hx, h⟩ := andThen_eq_ok.mp h
    obtain ⟨ts, hts, hd⟩ := hn.signed _ _ _ (noting_eq_ok.mp hx)
    cases h
    have ht := Token.sign?_eq_some.mp hsign
    exact ⟨c.current :: ts, (Cursor.spans_advance_of_isSymbol ht).trans hts, .signed ht hd⟩

theorem SoundAt.primary_succ {n : Nat} (hn : SoundAt n) {c c' : Cursor} {e : Expr}
    (h : Descent.primary .tree (n + 1) c = .ok (e, c')) : Consumes .primary c e c' := by
  simp only [Descent.primary] at h
  split at h
  · rename_i ht
    split at h
    · cases h
    · rename_i x hx
      cases h
      exact ⟨[c.current], Cursor.spans_advance_of_isNumber ht, .number ht hx⟩
  · split at h
    · rename_i ht
      obtain ⟨x, c₁, hx, h⟩ := andThen_eq_ok.mp h
      obtain ⟨ts, hts, hd⟩ := hn.expression _ _ _ (noting_eq_ok.mp hx)
      split at h
      · rename_i hu
        cases h
        refine ⟨c.current :: ts ++ [c₁.current], ?_, .group ht hd hu⟩
        exact ((Cursor.spans_advance_of_isSymbol ht).trans hts).trans
          (Cursor.spans_advance_of_isSymbol hu)
      · cases h
    · cases h

theorem soundAt (n : Nat) : SoundAt n := by
  induction n with
  | zero =>
    refine ⟨?_, ?_, ?_, ?_⟩
    · intro c e c' h
      cases h
    · intro lowest c e c' _ h
      cases h
    · intro c e c' h
      cases h
    · intro c e c' h
      cases h
  | succ n ih =>
    refine ⟨?_, ?_, ?_, ?_⟩
    · intro c e c' h
      exact ih.chain 1 c e c' (Nat.le_refl 1) h
    · intro lowest c e c' hlowest h
      exact ih.chain_succ hlowest h
    · intro c e c' h
      exact ih.signed_succ h
    · intro c e c' h
      exact ih.primary_succ h

/-! ## What is derived is read -/

/-- How the descent reads the tokens of a derivation, whatever stands behind them. -/
def Reading : Rule → List Token → Expr → Prop
  | .primary, ts, e => ∀ n rest finish, 4 * ts.length ≤ n →
      primary .tree n ⟨ts ++ rest, finish⟩ = .ok (e, ⟨rest, finish⟩)
  | .signed, ts, e => ∀ n rest finish, 4 * ts.length + 1 ≤ n →
      signed .tree n ⟨ts ++ rest, finish⟩ = .ok (e, ⟨rest, finish⟩)
  | .product, ts, e => ∀ n lowest rest finish, 4 * ts.length + 1 ≤ n → lowest ≤ 2 →
      chain .tree (n + 1) lowest ⟨ts ++ rest, finish⟩ =
        levels .tree (chain .tree n) lowest 2 e ⟨rest, finish⟩
  | .sum, ts, e => ∀ n lowest rest finish, 4 * ts.length + 1 ≤ n → lowest ≤ 1 →
      (Cursor.mk rest finish).current.priority ≤ 1 →
      chain .tree (n + 1) lowest ⟨ts ++ rest, finish⟩ =
        levels .tree (chain .tree n) lowest 1 e ⟨rest, finish⟩

/-- One turn of the loop over a strength, when the right operand is read. -/
theorem levels_link {n lowest : Nat} {op : Operator} {t : Token} {us rest : List Token}
    {finish : Nat} {l r : Expr} (hlowest : lowest ≤ op.priority)
    (ht : t.isSymbol op.text = true)
    (hr : chain .tree n (op.priority + 1) ⟨us ++ rest, finish⟩ = .ok (r, ⟨rest, finish⟩)) :
    levels .tree (chain .tree n) lowest op.priority l ⟨t :: us ++ rest, finish⟩ =
      levels .tree (chain .tree n) lowest op.priority (.binary (.known op) l r)
        ⟨rest, finish⟩ := by
  have hop : (Cursor.mk (t :: us ++ rest) finish).current.operator? = some op :=
    Token.operator?_eq_some.mpr ht
  have hadvance : (Cursor.mk (t :: us ++ rest) finish).advance = ⟨us ++ rest, finish⟩ := rfl
  have hright := fun c e c' h => ((advances .tree n).chain (op.priority + 1) c e c' h).length_le
  rw [levels_turn hright hop hlowest, hadvance, hr]
  rfl

/-- A signed operand leads to the loop, at any strength from two on. -/
theorem chain_of_signed {n lowest : Nat} {ts rest : List Token} {finish : Nat} {e : Expr}
    (h : signed .tree n ⟨ts ++ rest, finish⟩ = .ok (e, ⟨rest, finish⟩)) :
    chain .tree (n + 1) lowest ⟨ts ++ rest, finish⟩ =
      levels .tree (chain .tree n) lowest 2 e ⟨rest, finish⟩ := by
  simp only [chain]
  rw [h, noting_ok, andThen_ok]
  exact levels_start (Token.priority_le_two _)

theorem reading_number {t : Token} {x : Binary64} (ht : t.isNumber = true)
    (hx : numberValue t.text = .ok x) : Reading .primary [t] (.literal x) := by
  intro n rest finish hn
  obtain ⟨n, rfl⟩ : ∃ m, n = m + 1 := ⟨n - 1, by simp at hn; omega⟩
  have hcurrent : (Cursor.mk ([t] ++ rest) finish).current = t := rfl
  simp only [primary]
  rw [hcurrent, if_pos ht, hx]
  rfl

theorem reading_group {ts : List Token} {t u : Token} {e : Expr} (ht : t.isSymbol "(" = true)
    (h : Reading .sum ts e) (hu : u.isSymbol ")" = true) :
    Reading .primary (t :: ts ++ [u]) e := by
  intro n rest finish hn
  simp only [List.length_append, List.length_cons, List.length_nil] at hn
  -- four rules are entered on the way to the operand inside
  obtain ⟨n, rfl⟩ : ∃ m, n = m + 3 := ⟨n - 3, by omega⟩
  have hclose : (Cursor.mk (u :: rest) finish).current.priority = 0 :=
    Token.priority_of_isSymbol_close hu
  have hinner : expression .tree (n + 2) ⟨ts ++ u :: rest, finish⟩ =
      .ok (e, ⟨u :: rest, finish⟩) := by
    rw [expression, h n 1 (u :: rest) finish (by omega) (Nat.le_refl 1) (by omega)]
    exact levels_stop 1 (by omega)
  have hcurrent : (Cursor.mk (t :: ts ++ [u] ++ rest) finish).current = t := rfl
  have hadvance : (Cursor.mk (t :: ts ++ [u] ++ rest) finish).advance =
      ⟨ts ++ u :: rest, finish⟩ := by
    simp [Cursor.advance]
  simp only [primary]
  rw [hcurrent, hadvance, hinner]
  simp only [Token.isNumber_of_isSymbol ht, ht, Bool.false_eq_true, if_false, if_true,
    noting_ok, andThen_ok]
  exact if_pos hu

theorem reading_operand {ts : List Token} {e : Expr} (hd : Derives .primary ts e)
    (h : Reading .primary ts e) : Reading .signed ts e := by
  intro n rest finish hn
  obtain ⟨n, rfl⟩ : ∃ m, n = m + 1 := ⟨n - 1, by omega⟩
  have hsign : (Cursor.mk (ts ++ rest) finish).current.sign? = none := by
    cases hd with
    | number ht _ => exact Token.sign?_of_isNumber ht
    | group ht _ _ => exact Token.sign?_of_isSymbol_open ht
  simp only [signed]
  rw [hsign]
  exact h n rest finish (by omega)

theorem reading_signed {ts : List Token} {t : Token} {sign : Sign} {e : Expr}
    (ht : t.isSymbol sign.text = true) (h : Reading .signed ts e) :
    Reading .signed (t :: ts) (.unary (.known sign) e) := by
  intro n rest finish hn
  rw [List.length_cons] at hn
  obtain ⟨n, rfl⟩ : ∃ m, n = m + 1 := ⟨n - 1, by omega⟩
  have hcurrent : (Cursor.mk (t :: ts ++ rest) finish).current = t := rfl
  have hadvance : (Cursor.mk (t :: ts ++ rest) finish).advance = ⟨ts ++ rest, finish⟩ := rfl
  simp only [signed]
  rw [hcurrent, Token.sign?_eq_some.mpr ht, hadvance]
  simp only [h n rest finish (by omega), noting_ok, andThen_ok]
  rfl

/-- Operators by which a chain of products goes on, with a signed operand each. -/
theorem reading_product {ts us : List Token} {t : Token} {op : Operator} {l r : Expr}
    (hl : Reading .product ts l) (hop : op = .mul ∨ op = .div) (ht : t.isSymbol op.text = true)
    (hr : Reading .signed us r) :
    Reading .product (ts ++ t :: us) (.binary (.known op) l r) := by
  intro n lowest rest finish hn hlowest
  simp only [List.length_append, List.length_cons] at hn
  have hp : op.priority = 2 := by rcases hop with rfl | rfl <;> rfl
  obtain ⟨n, rfl⟩ : ∃ m, n = m + 1 := ⟨n - 1, by omega⟩
  have hright : chain .tree (n + 1) (op.priority + 1) ⟨us ++ rest, finish⟩ =
      .ok (r, ⟨rest, finish⟩) := by
    rw [chain_of_signed (hr n rest finish (by omega)), hp]
    exact levels_stop 2 (Nat.lt_succ_of_le (Token.priority_le_two _))
  have hlink := levels_link (l := l) (by omega : lowest ≤ op.priority) ht hright
  rw [hp] at hlink
  rw [List.append_assoc, hl _ lowest (t :: us ++ rest) finish (by omega) hlowest]
  exact hlink

/-- Operators by which a chain of sums goes on, with a product each. -/
theorem reading_sum {ts us : List Token} {t : Token} {op : Operator} {l r : Expr}
    (hl : Reading .sum ts l) (hop : op = .add ∨ op = .sub) (ht : t.isSymbol op.text = true)
    (hr : Reading .product us r) :
    Reading .sum (ts ++ t :: us) (.binary (.known op) l r) := by
  intro n lowest rest finish hn hlowest hrest
  simp only [List.length_append, List.length_cons] at hn
  have hp : op.priority = 1 := by rcases hop with rfl | rfl <;> rfl
  obtain ⟨n, rfl⟩ : ∃ m, n = m + 1 := ⟨n - 1, by omega⟩
  have hright : chain .tree (n + 1) (op.priority + 1) ⟨us ++ rest, finish⟩ =
      .ok (r, ⟨rest, finish⟩) := by
    rw [hp, hr n 2 rest finish (by omega) (Nat.le_refl 2)]
    exact levels_stop 2 (by omega)
  have hpriority : (Cursor.mk (t :: us ++ rest) finish).current.priority ≤ 1 := by
    rw [← hp, ← Token.priority_of_isSymbol ht]
    exact Nat.le_refl _
  have hlink := levels_link (l := l) (by omega : lowest ≤ op.priority) ht hright
  rw [hp] at hlink
  rw [List.append_assoc, hl _ lowest (t :: us ++ rest) finish (by omega) hlowest hpriority]
  exact hlink

/-- **What the grammar derives, the descent reads**, given enough budget. -/
theorem reading_of_derives {rule : Rule} {ts : List Token} {e : Expr} (h : Derives rule ts e) :
    Reading rule ts e := by
  induction h with
  | number ht hx => exact reading_number ht hx
  | group ht _ hu ih => exact reading_group ht ih hu
  | operand hd ih => exact reading_operand hd ih
  | signed ht _ ih => exact reading_signed ht ih
  | factor _ ih =>
    intro n lowest rest finish hn _
    exact chain_of_signed (ih n rest finish hn)
  | product _ hop ht _ ihl ihr => exact reading_product ihl hop ht ihr
  | term _ ih =>
    intro n lowest rest finish hn hlowest hrest
    rw [ih n lowest rest finish hn (by omega)]
    exact levels_skip (by omega)
  | sum _ hop ht _ ihl ihr => exact reading_sum ihl hop ht ihr

/-- A whole list of tokens that derives a tree is read as that tree. -/
theorem expression_of_derives {ts : List Token} {e : Expr} (h : Derives .sum ts e)
    (finish : Nat) {n : Nat} (hn : 4 * ts.length + 3 ≤ n) :
    expression .tree n ⟨ts, finish⟩ = .ok (e, ⟨[], finish⟩) := by
  obtain ⟨n, rfl⟩ : ∃ m, n = m + 2 := ⟨n - 2, by omega⟩
  have hend : (Cursor.mk [] finish).current.priority = 0 := rfl
  have hr := reading_of_derives h n 1 [] finish (by omega) (Nat.le_refl 1) (by omega)
  rw [List.append_nil] at hr
  rw [expression, hr]
  exact levels_stop 1 (by omega)

/-- The end of a whole text, where nothing may be left. -/
theorem wholeText_tree_eq_ok {c : Cursor} {e : Expr} :
    wholeText .tree c = .ok e ↔ ∃ finish, expression .tree budget c = .ok (e, ⟨[], finish⟩) := by
  simp only [wholeText]
  constructor
  · intro h
    obtain ⟨x, ⟨rest, finish⟩, hx, h⟩ := andThen_eq_ok.mp h
    cases rest with
    | nil =>
      cases h
      exact ⟨finish, noting_eq_ok.mp hx⟩
    | cons t ts => cases h
  · rintro ⟨finish, h⟩
    rw [h]
    rfl

end Calculator.Descent

namespace Calculator

open Descent

theorem Derives.unique {ts : List Token} {e e' : Expr} (h : Derives .sum ts e)
    (h' : Derives .sum ts e') : e = e' := by
  have hn := Nat.le_refl (4 * ts.length + 3)
  have hr := expression_of_derives h 0 hn
  rw [expression_of_derives h' 0 hn] at hr
  cases hr
  rfl

theorem parse_eq_ok {s : Source} {e : Expr} :
    parse s = .ok e ↔ wholeText .tree (.ofSource s) = .ok e := by
  rw [parse]
  cases wholeText .tree (.ofSource s) with
  | error stop => simp [Except.mapError]
  | ok x => simp [Except.mapError]

/-- What is parsed is spelled by the text, at any budget. -/
theorem spells_of_parse {s : Source} {e : Expr} (h : parse s = .ok e) : Spells s e := by
  obtain ⟨finish, he⟩ := wholeText_tree_eq_ok.mp (parse_eq_ok.mp h)
  obtain ⟨ts, ⟨hts, -⟩, hd⟩ := (soundAt budget).expression _ _ _ he
  rw [List.append_nil] at hts
  rw [spells_iff]
  rwa [← hts] at hd

/-- What a text spells is parsed, unless it is nested too deeply. -/
theorem parse_of_spells {s : Source} {e : Expr} (h : Spells s e)
    (hdeep : parse s ≠ .error .tooDeep) : parse s = .ok e := by
  rw [spells_iff] at h
  have he := expression_of_derives h (Lexer.tokens s).2
    (Nat.le_max_right budget (4 * (Lexer.tokens s).1.length + 3))
  rcases (extendsAt_of_le .tree (Nat.le_max_left budget _)).expression (.ofSource s) with hd | hd
  · -- the descent was cut short
    refine absurd ?_ hdeep
    rw [parse, wholeText, hd]
    rfl
  · rw [parse_eq_ok, wholeText_tree_eq_ok]
    exact ⟨_, hd.symm.trans he⟩

end Calculator
