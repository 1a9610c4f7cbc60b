import Calculator.Parsing.Descent

/-!
# More budget changes no answer

The budget only bounds how many rules are open at once. A rule that came to an answer, be it a tree
or a failure, gives the same answer with any greater budget: the descent has one meaning, and the
budget says how much of it is computed.
-/

namespace Calculator.Descent

/-- The answer `r'` is the answer `r`, unless `r` was cut short. -/
def Extends {β : Type} (r r' : Except Stop β) : Prop := r = .error .tooDeep ∨ r' = r

section Extends

variable {α β : Type}

theorem Extends.refl (r : Except Stop β) : Extends r r := .inr rfl

theorem Extends.tooDeep (r : Except Stop β) : Extends (.error .tooDeep) r := .inl rfl

theorem Extends.noting {r r' : Except Stop β} (h : Extends r r') (crumb : Token → Crumb) :
    Extends (noting crumb r) (noting crumb r') := by
  rcases h with rfl | rfl
  · exact .tooDeep _
  · exact .refl _

theorem Extends.andThen {r r' : Step α} {next next' : α → Cursor → Except Stop β}
    (h : Extends r r') (hnext : ∀ x c, Extends (next x c) (next' x c)) :
    Extends (andThen r next) (andThen r' next') := by
  rcases h with rfl | rfl
  · exact .tooDeep _
  · cases r' with
    | error stop => exact .refl _
    | ok p => exact hnext p.1 p.2

end Extends

variable {α : Type} (b : Builder α)

theorem gather_extends {right right' : Cursor → Step α}
    (hright : ∀ c, Extends (right c) (right' c)) (strength : Nat) (links : List Token) (left : α)
    (c : Cursor) :
    Extends (gather b right strength links left c) (gather b right' strength links left c) := by
  induction links generalizing left c with
  | nil => exact .refl _
  | cons t links ih =>
    simp only [gather]
    split
    · exact .refl _
    · split
      · refine ((hright _).noting _).andThen fun x c' => ?_
        exact (Extends.refl _).andThen fun y c'' => ih y c''
      · exact .refl _

theorem levels_extends {right right' : Nat → Cursor → Step α}
    (hright : ∀ p c, Extends (right p c) (right' p c)) (lowest strength : Nat) (left : α)
    (c : Cursor) :
    Extends (levels b right lowest strength left c) (levels b right' lowest strength left c) := by
  induction strength generalizing left c with
  | zero => exact .refl _
  | succ strength ih =>
    simp only [levels]
    split
    · exact .refl _
    · exact (gather_extends b (hright _) _ _ _ _).andThen fun x c' => ih x c'

/-- From budget `n` to budget `m` no rule changes its answer. -/
structure ExtendsAt (n m : Nat) : Prop where
  expression : ∀ c, Extends (expression b n c) (expression b m c)
  chain : ∀ lowest c, Extends (chain b n lowest c) (chain b m lowest c)
  signed : ∀ c, Extends (signed b n c) (signed b m c)
  primary : ∀ c, Extends (primary b n c) (primary b m c)

theorem ExtendsAt.succ {n m : Nat} (h : ExtendsAt b n m) : ExtendsAt b (n + 1) (m + 1) where
  expression c := h.chain 1 c
  chain lowest c := by
    simp only [Descent.chain]
    exact ((h.signed c).noting _).andThen fun x c' => levels_extends b h.chain _ _ _ _
  signed c := by
    simp only [Descent.signed]
    split
    · exact h.primary c
    · exact ((h.signed _).noting _).andThen fun x c' => .refl _
  primary c := by
    simp only [Descent.primary]
    split
    · exact .refl _
    · split
      · exact ((h.expression _).noting _).andThen fun x c' => .refl _
      · exact .refl _

theorem extendsAt_of_le {n m : Nat} (h : n ≤ m) : ExtendsAt b n m := by
  induction n generalizing m with
  | zero => exact ⟨fun _ => .tooDeep _, fun _ _ => .tooDeep _, fun _ => .tooDeep _,
      fun _ => .tooDeep _⟩
  | succ n ih =>
    obtain ⟨m, rfl⟩ := Nat.exists_eq_succ_of_ne_zero (Nat.ne_of_gt (Nat.zero_lt_of_lt h))
    exact (ih (Nat.le_of_succ_le_succ h)).succ

end Calculator.Descent
