import Calculator.Proofs.Grammar

/-!
# Chains by strengths

The descent reads a chain by strengths: `gather` takes the operators of one strength, and `levels`
goes from the strength of the first operator down to the lowest. This holds of the loop and of the
rules around it, whatever they build:

* a strength at which the next token does not bind is passed over, so that the loop may as well
  start at any greater one, and it ends where the next token binds less than was asked for;
* every rule uses up the token that it starts with (`advances`);
* a chain ends in front of a token that binds less strongly than was asked for
  (`chain_priority_lt`).
-/

namespace Calculator.Descent

variable {α : Type} {b : Builder α}

/-! ## The loop over strengths -/

section Loop

variable {right : Nat → Cursor → Step α} {lowest : Nat} {e : α} {c : Cursor}

theorem gather_skip {right : Cursor → Step α} {strength : Nat} (links : List Token)
    (h : c.current.priority < strength) :
    gather b right strength links e c = .ok (e, c) := by
  cases links with
  | nil => rfl
  | cons t links =>
    simp only [gather]
    split
    · rfl
    · rename_i op hop
      have hp := Token.priority_of_isSymbol (Token.operator?_eq_some.mp hop)
      rw [if_neg (by omega)]

theorem levels_skip {strength : Nat} (h : c.current.priority < strength + 1) :
    levels b right lowest (strength + 1) e c = levels b right lowest strength e c := by
  simp only [levels]
  split
  · cases strength with
    | zero => rfl
    | succ strength =>
      simp only [levels]
      rw [if_pos (by omega)]
  · rw [gather_skip _ h, andThen_ok]

theorem levels_start {strength : Nat} (h : c.current.priority ≤ strength) :
    levels b right lowest c.current.priority e c = levels b right lowest strength e c := by
  induction strength with
  | zero =>
    rw [Nat.le_zero.mp h]
  | succ strength ih =>
    by_cases hs : c.current.priority = strength + 1
    · rw [hs]
    · rw [ih (by omega), levels_skip (by omega)]

theorem levels_stop (strength : Nat) (h : c.current.priority < lowest) :
    levels b right lowest strength e c = .ok (e, c) := by
  induction strength with
  | zero => rfl
  | succ strength ih =>
    by_cases hs : strength + 1 < lowest
    · simp only [levels]
      rw [if_pos hs]
    · rw [levels_skip (by omega), ih]

end Loop

theorem gather_at_end {right : Cursor → Step α} {strength : Nat} (links : List Token)
    (left : α) (finish : Nat) :
    gather b right strength links left ⟨[], finish⟩ = .ok (left, ⟨[], finish⟩) := by
  cases links <;> rfl

theorem built_eq_ok {c c' : Cursor} {r : Except Failure α} {x : α} :
    built c r = .ok (x, c') ↔ r = .ok x ∧ c = c' := by
  cases r <;> simp [built]

/-- The list that bounds the loop over one strength only has to be long enough. -/
theorem gather_links {right : Cursor → Step α} {strength : Nat}
    (hright : ∀ c e c', right c = .ok (e, c') → c'.rest.length ≤ c.rest.length)
    (links links' : List Token) (left : α) (c : Cursor)
    (h : c.rest.length ≤ links.length) (h' : c.rest.length ≤ links'.length) :
    gather b right strength links left c = gather b right strength links' left c := by
  induction links generalizing links' left c with
  | nil =>
    obtain ⟨rest, finish⟩ := c
    obtain rfl := List.eq_nil_of_length_eq_zero (Nat.le_zero.mp h)
    rw [gather_at_end, gather_at_end]
  | cons t links ih =>
    cases links' with
    | nil =>
      obtain ⟨rest, finish⟩ := c
      obtain rfl := List.eq_nil_of_length_eq_zero (Nat.le_zero.mp h')
      rw [gather_at_end, gather_at_end]
    | cons t' links' =>
      simp only [gather]
      split
      · rfl
      · split
        · cases hx : right c.advance with
          | error stop => cases stop <;> rfl
          | ok p =>
            obtain ⟨x, c₁⟩ := p
            -- the operator itself is used up, so what is left fits the shorter lists
            have hle := hright _ _ _ hx
            have hadv : c.advance.rest.length = c.rest.length - 1 := List.length_tail
            simp only [List.length_cons] at h h'
            rw [noting_ok, andThen_ok, andThen_ok]
            cases hy : built c₁ (b.binary c₁.current _ left x) with
            | error stop => rfl
            | ok p =>
              obtain ⟨y, c₂⟩ := p
              obtain ⟨-, rfl⟩ := built_eq_ok.mp hy
              exact ih links' _ c₁ (by omega) (by omega)
        · rfl

theorem andThen_andThen {β γ : Type} (r : Step α) (f : α → Cursor → Step β)
    (g : β → Cursor → Except Stop γ) :
    andThen (andThen r f) g = andThen r fun x c => andThen (f x c) g := by
  cases r <;> rfl

/-- One turn of the loop: the first operator takes the chain behind it, which is one strength above
its own, as its right operand, and the loop goes on behind it at the same strength. -/
theorem levels_turn {right : Nat → Cursor → Step α} {lowest : Nat} {op : Operator} {left : α}
    {c : Cursor}
    (hright : ∀ c e c', right (op.priority + 1) c = .ok (e, c') → c'.rest.length ≤ c.rest.length)
    (hop : c.current.operator? = some op) (hlowest : lowest ≤ op.priority) :
    levels b right lowest op.priority left c =
      andThen (noting (.rightOperand op) (right (op.priority + 1) c.advance)) fun x c' =>
        andThen (built c' (b.binary c'.current op left x)) fun y c'' =>
          levels b right lowest op.priority y c'' := by
  obtain ⟨rest, finish⟩ := c
  cases rest with
  | nil => cases hop
  | cons t links =>
    obtain ⟨p, hp⟩ : ∃ p, op.priority = p + 1 := by cases op <;> exact ⟨_, rfl⟩
    rw [hp] at hlowest hright ⊢
    simp only [levels, if_neg (Nat.not_lt.mpr hlowest)]
    rw [gather, hop]
    simp only [hp, if_true, andThen_andThen]
    -- behind the right operand, the tokens that bound the loop are still enough
    cases hx : right (p + 1 + 1) (Cursor.mk (t :: links) finish).advance with
    | error stop => cases stop <;> rfl
    | ok r =>
      obtain ⟨x, c₁⟩ := r
      have hle : c₁.rest.length ≤ links.length := hright _ _ _ hx
      rw [noting_ok, andThen_ok, andThen_ok]
      cases hy : built c₁ (b.binary c₁.current op left x) with
      | error stop => rfl
      | ok r =>
        obtain ⟨y, c₂⟩ := r
        obtain ⟨-, rfl⟩ := built_eq_ok.mp hy
        rw [andThen_ok, andThen_ok, gather_links hright links c₁.rest y c₁ hle (Nat.le_refl _)]

/-! ## What is used up -/

/-- Between the cursors stand the token of the first and perhaps more. -/
def Advances (c c' : Cursor) : Prop := ∃ ts, c.Spans (c.current :: ts) c'

theorem Advances.length_le {c c' : Cursor} (h : Advances c c') :
    c'.rest.length ≤ c.rest.length := by
  obtain ⟨ts, hts⟩ := h
  exact hts.length_le

theorem Advances.trans {c c' c'' : Cursor} {us : List Token} (h : Advances c c')
    (h' : c'.Spans us c'') : Advances c c'' := by
  obtain ⟨ts, hts⟩ := h
  exact ⟨ts ++ us, hts.trans h'⟩

theorem gather_spans {right : Cursor → Step α} {strength : Nat}
    (hright : ∀ c e c', right c = .ok (e, c') → Advances c c') (links : List Token) {left e : α}
    {c c' : Cursor} (h : gather b right strength links left c = .ok (e, c')) :
    ∃ ts, c.Spans ts c' := by
  induction links generalizing left c with
  | nil =>
    cases h
    exact ⟨[], .refl _⟩
  | cons t links ih =>
    simp only [gather] at h
    split at h
    · cases h
      exact ⟨[], .refl _⟩
    · rename_i op hop
      split at h
      · obtain ⟨x, c₁, hx, h⟩ := andThen_eq_ok.mp h
        obtain ⟨y, c₂, hy, h⟩ := andThen_eq_ok.mp h
        obtain ⟨-, rfl⟩ := built_eq_ok.mp hy
        obtain ⟨ts, hts⟩ := hright _ _ _ (noting_eq_ok.mp hx)
        obtain ⟨us, hus⟩ := ih h
        have ht := Token.operator?_eq_some.mp hop
        exact ⟨_, ((Cursor.spans_advance_of_isSymbol ht).trans hts).trans hus⟩
      · cases h
        exact ⟨[], .refl _⟩

theorem levels_spans {right : Nat → Cursor → Step α} {lowest : Nat}
    (hright : ∀ p c e c', right p c = .ok (e, c') → Advances c c') (strength : Nat) {left e : α}
    {c c' : Cursor} (h : levels b right lowest strength left c = .ok (e, c')) :
    ∃ ts, c.Spans ts c' := by
  induction strength generalizing left c with
  | zero =>
    cases h
    exact ⟨[], .refl _⟩
  | succ strength ih =>
    simp only [levels] at h
    split at h
    · cases h
      exact ⟨[], .refl _⟩
    · obtain ⟨x, c₁, hx, h⟩ := andThen_eq_ok.mp h
      obtain ⟨ts, hts⟩ := gather_spans (hright _) _ hx
      obtain ⟨us, hus⟩ := ih h
      exact ⟨ts ++ us, hts.trans hus⟩

/-- The rules use up their first tokens, at a budget. -/
structure AdvancesAt (b : Builder α) (n : Nat) : Prop where
  expression : ∀ c e c', expression b n c = .ok (e, c') → Advances c c'
  chain : ∀ lowest c e c', chain b n lowest c = .ok (e, c') → Advances c c'
  signed : ∀ c e c', signed b n c = .ok (e, c') → Advances c c'
  primary : ∀ c e c', primary b n c = .ok (e, c') → Advances c c'

theorem AdvancesAt.chain_succ {n : Nat} (hn : AdvancesAt b n) {lowest : Nat} {c c' : Cursor}
    {e : α} (h : Descent.chain b (n + 1) lowest c = .ok (e, c')) : Advances c c' := by
  simp only [Descent.chain] at h
  obtain ⟨x, c₁, hx, h⟩ := andThen_eq_ok.mp h
  obtain ⟨us, hus⟩ := levels_spans hn.chain _ h
  exact (hn.signed _ _ _ (noting_eq_ok.mp hx)).trans hus

theorem AdvancesAt.signed_succ {n : Nat} (hn : AdvancesAt b n) {c c' : Cursor} {e : α}
    (h : Descent.signed b (n + 1) c = .ok (e, c')) : Advances c c' := by
  simp only [Descent.signed] at h
  split at h
  · exact hn.primary _ _ _ h
  · rename_i sign hsign
    obtain ⟨x, c₁, hx, h⟩ := andThen_eq_ok.mp h
    obtain ⟨-, rfl⟩ := built_eq_ok.mp h
    obtain ⟨ts, hts⟩ := hn.signed _ _ _ (noting_eq_ok.mp hx)
    have ht := Token.sign?_eq_some.mp hsign
    exact ⟨_, (Cursor.spans_advance_of_isSymbol ht).trans hts⟩

theorem AdvancesAt.primary_succ {n : Nat} (hn : AdvancesAt b n) {c c' : Cursor} {e : α}
    (h : Descent.primary b (n + 1) c = .ok (e, c')) : Advances c c' := by
  simp only [Descent.primary] at h
  split at h
  · rename_i ht
    split at h
    · cases h
    · cases h
      exact ⟨[], Cursor.spans_advance_of_isNumber ht⟩
  · split at h
    · rename_i ht
      obtain ⟨x, c₁, hx, h⟩ := andThen_eq_ok.mp h
      obtain ⟨ts, hts⟩ := hn.expression _ _ _ (noting_eq_ok.mp hx)
      split at h
      · rename_i hu
        cases h
        exact ⟨_, ((Cursor.spans_advance_of_isSymbol ht).trans hts).trans
          (Cursor.spans_advance_of_isSymbol hu)⟩
      · cases h
    · cases h

theorem advances (b : Builder α) (n : Nat) : AdvancesAt b n := by
  induction n with
  | zero =>
    refine ⟨?_, ?_, ?_, ?_⟩
    · intro c e c' h
      cases h
    · intro lowest c e c' h
      cases h
    · intro c e c' h
      cases h
    · intro c e c' h
      cases h
  | succ n ih =>
    refine ⟨?_, ?_, ?_, ?_⟩
    · intro c e c' h
      exact ih.chain 1 c e c' h
    · intro lowest c e c' h
      exact ih.chain_succ h
    · intro c e c' h
      exact ih.signed_succ h
    · intro c e c' h
      exact ih.primary_succ h

/-! ## Where a chain ends -/

theorem gather_priority_lt {right : Cursor → Step α} {strength : Nat} (hs : 1 ≤ strength)
    (hright : ∀ c e c', right c = .ok (e, c') →
      c'.current.priority < strength + 1 ∧ c'.rest.length ≤ c.rest.length)
    (links : List Token) {left e : α} {c c' : Cursor}
    (hl : c.rest.length ≤ links.length) (hc : c.current.priority ≤ strength)
    (h : gather b right strength links left c = .ok (e, c')) :
    c'.current.priority < strength := by
  induction links generalizing left c with
  | nil =>
    obtain ⟨rest, finish⟩ := c
    obtain rfl := List.eq_nil_of_length_eq_zero (Nat.le_zero.mp hl)
    cases h
    exact hs
  | cons t links ih =>
    simp only [gather] at h
    split at h
    · rename_i hop
      cases h
      rw [Token.priority, hop]
      exact hs
    · rename_i op hop
      have hp := Token.priority_of_isSymbol (Token.operator?_eq_some.mp hop)
      split at h
      · obtain ⟨x, c₁, hx, h⟩ := andThen_eq_ok.mp h
        obtain ⟨y, c₂, hy, h⟩ := andThen_eq_ok.mp h
        obtain ⟨-, rfl⟩ := built_eq_ok.mp hy
        obtain ⟨hlt, hle⟩ := hright _ _ _ (noting_eq_ok.mp hx)
        have hadv : c.advance.rest.length = c.rest.length - 1 := List.length_tail
        rw [List.length_cons] at hl
        exact ih (by omega) (Nat.le_of_lt_succ hlt) h
      · cases h
        omega

theorem levels_priority_lt {right : Nat → Cursor → Step α} {lowest : Nat} (hlowest : 1 ≤ lowest)
    (hright : ∀ p c e c', 1 ≤ p → right p c = .ok (e, c') →
      c'.current.priority < p ∧ c'.rest.length ≤ c.rest.length)
    (strength : Nat) {left e : α} {c c' : Cursor} (hc : c.current.priority ≤ strength)
    (h : levels b right lowest strength left c = .ok (e, c')) :
    c'.current.priority < lowest := by
  induction strength generalizing left c with
  | zero =>
    cases h
    omega
  | succ strength ih =>
    simp only [levels] at h
    split at h
    · cases h
      omega
    · obtain ⟨x, c₁, hx, h⟩ := andThen_eq_ok.mp h
      have hlt := gather_priority_lt (by omega)
        (fun c e c' => hright _ c e c' (by omega)) _ (Nat.le_refl _) hc hx
      exact ih (Nat.le_of_lt_succ hlt) h

/-- A chain ends in front of a token that binds less strongly than was asked for. -/
theorem chain_priority_lt {n lowest : Nat} (hlowest : 1 ≤ lowest) {c c' : Cursor} {e : α}
    (h : chain b n lowest c = .ok (e, c')) : c'.current.priority < lowest := by
  induction n generalizing lowest c e c' with
  | zero => cases h
  | succ n ih =>
    simp only [chain] at h
    obtain ⟨x, c₁, -, h⟩ := andThen_eq_ok.mp h
    refine levels_priority_lt hlowest ?_ _ (Nat.le_refl _) h
    intro p c e c' hp h
    exact ⟨ih hp h, ((advances b n).chain _ _ _ _ h).length_le⟩

end Calculator.Descent
