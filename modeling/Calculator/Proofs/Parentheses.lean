import Calculator.Proofs.Groups
import Calculator.Proofs.ViablePrefix

/-!
# Texts with the fewest parentheses

The text that is written for a tree has no more groups than any text that is parsed to a tree of the
same shape, and no more around any of its numbers; so none of its parentheses can be left out.

Fewer groups also make a text easier to read. What the parser spends at a number is settled by the
groups around it and by the signs and operators that wait there, and these are the same in every
spelling of the tree. So where some spelling of a tree is not nested too deeply, neither is the text
that is written for it.
-/

namespace Calculator

open Construct Partial

/-! ## Trees of the grammar can be written -/

/-- A number token has a finite value without sign. -/
theorem isFinite_of_numberValue {text : String} {x : Binary64}
    (h : Descent.numberValue text = .ok x) : x.isFinite = true ∧ x.negative = false := by
  simp only [Descent.numberValue] at h
  split at h
  · cases h
  · rename_i d _
    simp only [Decimal.toBinary64?] at h
    by_cases hlt : d.word < Binary64.infinityWord
    · rw [if_pos hlt] at h
      cases h
      exact Binary64.isFinite_ofWord hlt
    · rw [if_neg hlt] at h
      cases h

/-- What is derived is made of operators and of finite numbers without sign. -/
theorem Derives.supported {rule : Rule} {ts : List Token} {e : Expr} (h : Derives rule ts e) :
    e.Supported ∧ ∀ x ∈ e.literals, x.isFinite = true ∧ x.negative = false := by
  induction h with
  | number _ hx =>
    refine ⟨trivial, ?_⟩
    intro y hy
    rw [List.mem_singleton.mp hy]
    exact isFinite_of_numberValue hx
  | group _ _ _ ih => exact ih
  | operand _ ih => exact ih
  | signed _ _ ih => exact ih
  | factor _ ih => exact ih
  | term _ ih => exact ih
  | product _ _ _ _ ihl ihr =>
    refine ⟨⟨ihl.1, ihr.1⟩, ?_⟩
    intro y hy
    rcases List.mem_append.mp hy with hy | hy
    · exact ihl.2 y hy
    · exact ihr.2 y hy
  | sum _ _ _ _ ihl ihr =>
    refine ⟨⟨ihl.1, ihr.1⟩, ?_⟩
    intro y hy
    rcases List.mem_append.mp hy with hy | hy
    · exact ihl.2 y hy
    · exact ihr.2 y hy

/-! ## What is spent at each number -/

/-- How many signs and operators wait for their operand at each number of a tree. -/
def Expr.pending : Expr → List Nat
  | literal _ => [0]
  | unary _ e => e.pending.map (· + 1)
  | binary _ l r => l.pending ++ r.pending.map (· + 1)
  | foreign _ => []

theorem Expr.pending_mapLiterals (f : Binary64 → Binary64) (e : Expr) :
    (e.mapLiterals f).pending = e.pending := by
  induction e with
  | literal x => rfl
  | unary m e ih => rw [mapLiterals, pending, ih, pending]
  | binary m l r ihl ihr => rw [mapLiterals, pending, ihl, ihr, pending]
  | foreign kind => rfl

/-- With groups of the given depths around its numbers, and constructs that wait there, a tree is
nested no deeper than the limit, if so much is spent already. -/
def Affordable (limit spent : Nat) (depths pending : List Nat) : Prop :=
  ∀ x ∈ List.zipWith (fun d q => 4 * d + q) depths pending, spent + x ≤ limit

instance (limit spent : Nat) (depths pending : List Nat) :
    Decidable (Affordable limit spent depths pending) :=
  inferInstanceAs (Decidable (∀ x ∈ List.zipWith _ depths pending, spent + x ≤ limit))

section Affordable

variable {limit spent : Nat} {ds ds' es qs rs : List Nat}

theorem affordable_append (h : ds.length = qs.length) :
    Affordable limit spent (ds ++ es) (qs ++ rs) ↔
      Affordable limit spent ds qs ∧ Affordable limit spent es rs := by
  simp only [Affordable, List.zipWith_append h, List.mem_append, or_imp, forall_and]

/-- One more group around all numbers. -/
theorem affordable_group :
    Affordable limit spent (ds.map (· + 1)) qs ↔ Affordable limit (4 + spent) ds qs := by
  simp only [Affordable, List.zipWith_map_left]
  induction ds generalizing qs with
  | nil => simp
  | cons d ds ih =>
    cases qs with
    | nil => simp
    | cons q qs =>
      simp only [List.zipWith_cons_cons, List.forall_mem_cons, ih]
      have : spent + (4 * (d + 1) + q) = 4 + spent + (4 * d + q) := by omega
      rw [this]

/-- One more sign or operator that waits at all numbers. -/
theorem affordable_waiting :
    Affordable limit spent ds (qs.map (· + 1)) ↔ Affordable limit (1 + spent) ds qs := by
  simp only [Affordable, List.zipWith_map_right]
  induction ds generalizing qs with
  | nil => simp
  | cons d ds ih =>
    cases qs with
    | nil => simp
    | cons q qs =>
      simp only [List.zipWith_cons_cons, List.forall_mem_cons, ih]
      have : spent + (4 * d + (q + 1)) = 1 + spent + (4 * d + q) := by omega
      rw [this]

/-- Fewer groups around each number. -/
theorem Affordable.mono (h : Affordable limit spent ds qs) (hle : List.Forall₂ (· ≤ ·) ds' ds) :
    Affordable limit spent ds' qs := by
  induction hle generalizing qs with
  | nil => exact h
  | @cons d' d ds' ds hd _ ih =>
    cases qs with
    | nil => simp [Affordable]
    | cons q qs =>
      simp only [Affordable, List.zipWith_cons_cons, List.forall_mem_cons] at h ih ⊢
      exact ⟨by omega, ih h.2⟩

/-- What is spent already counts at every number. -/
theorem not_affordable (h : limit < spent) (hds : ds ≠ []) (hl : ds.length = qs.length) :
    ¬ Affordable limit spent ds qs := by
  intro hall
  cases ds with
  | nil => exact hds rfl
  | cons d ds =>
    cases qs with
    | nil => cases hl
    | cons q qs =>
      have := hall (4 * d + q) List.mem_cons_self
      omega

end Affordable

/-! ## A derivation, read from the left -/

/-- What may stand around a rule and behind it: what is open around it holds on to its operand less
strongly, and the next token binds no more strongly than the operators of the rule. -/
def Rule.Admits : Rule → List Construct → Token → Prop
  | sum, around, t => (∀ k ∈ around.head?, k.strength < 1) ∧ t.priority ≤ 1
  | product, around, _ => ∀ k ∈ around.head?, k.strength < 2
  | _, _, _ => True

/-- Reading the tokens of a derivation from the left comes to its tree, whatever is open around
them, unless there is a number at which too much is spent. -/
structure Derivable (rule : Rule) (ts : List Token) (e : Expr) (ds : List Nat) : Prop where
  grouped : ∃ n, Grouped ts n ds
  nonempty : ds ≠ []
  length : ds.length = e.pending.length
  read : ∀ limit around (c : Cursor), rule.Admits around c.current →
    (awaiting around).read limit (ts ++ c.rest) c.finish =
      if Affordable limit (costOfAll around) ds e.pending then
        (holding e around).read limit c.rest c.finish
      else .error .tooDeep

section Derivable

variable {ts us : List Token} {t u : Token} {e l r : Expr} {ds es : List Nat}
  {around : List Construct}

/-- The first token of an operand: where too much is spent, nothing more is read. -/
theorem read_cons_of_next {p : Partial} {qs : List Nat} {limit finish : Nat}
    {answer : Except Stop Expr} (hds : ds ≠ []) (hl : ds.length = qs.length)
    (hnext : (awaiting around).next t = some p)
    (hread : costOfAll around ≤ limit → p.read limit ts finish =
      if Affordable limit (costOfAll around) ds qs then answer else .error .tooDeep) :
    (awaiting around).read limit (t :: ts) finish =
      if Affordable limit (costOfAll around) ds qs then answer else .error .tooDeep := by
  by_cases hd : limit < costOfAll around
  · rw [if_neg (not_affordable hd hds hl), read_of_exceeds (by simpa [exceeds] using hd)]
  · rw [Partial.read, if_neg (by simpa [exceeds] using hd), hnext]
    exact hread (Nat.le_of_not_lt hd)

theorem derivable_number {x : Binary64} (ht : t.isNumber = true)
    (hx : Descent.numberValue t.text = .ok x) : Derivable .primary [t] (.literal x) [0] where
  grouped := ⟨0, .number ht⟩
  nonempty := by simp
  length := rfl
  read limit around c _ := by
    have hnext : (awaiting around).next t = some (holding (.literal x) around) := by
      simp [next, ht, hx]
    refine read_cons_of_next (by simp) rfl hnext ?_
    intro hle
    rw [if_pos (by simpa [Affordable, Expr.pending] using hle)]
    rfl

theorem Derivable.group (h : Derivable .sum ts e ds) (ht : t.isSymbol "(" = true)
    (hu : u.isSymbol ")" = true) : Derivable .primary (t :: ts ++ [u]) e (ds.map (· + 1)) where
  grouped := by
    obtain ⟨n, hg⟩ := h.grouped
    exact ⟨n + 1, hg.group ht hu⟩
  nonempty := by simpa using h.nonempty
  length := by rw [List.length_map, h.length]
  read limit around c _ := by
    rw [List.append_assoc, List.cons_append, List.singleton_append]
    refine read_cons_of_next (by simpa using h.nonempty) (by rw [List.length_map, h.length])
      (next_group ht around) ?_
    intro _
    have hclose := Token.priority_of_isSymbol_close hu
    have hread := h.read limit (.group t.pos :: around) ⟨u :: c.rest, c.finish⟩
      ⟨by simp [strength], by show u.priority ≤ 1; omega⟩
    have hsettle : settle 1 e (.group t.pos :: around) = (e, .group t.pos :: around) :=
      settle_eq_self e (by simp [strength])
    have hend : (holding e (.group t.pos :: around)).read limit (u :: c.rest) c.finish =
        (holding e around).read limit c.rest c.finish := by
      have hnext : (holding e (.group t.pos :: around)).next u = some (holding e around) := by
        simp [next, Token.operator?_of_isSymbol_close hu, hu, hsettle]
      rw [Partial.read, if_neg (by simp [exceeds]), hnext]
    rw [hread, hend, costOfAll_cons, cost]
    simp only [affordable_group]

theorem Derivable.sign (h : Derivable .signed ts e ds) {sign : Sign}
    (ht : t.isSymbol sign.text = true) :
    Derivable .signed (t :: ts) (.unary (.known sign) e) ds where
  grouped := by
    obtain ⟨n, hg⟩ := h.grouped
    exact ⟨n, hg.sign ht⟩
  nonempty := h.nonempty
  length := by rw [Expr.pending, List.length_map, h.length]
  read limit around c _ := by
    rw [List.cons_append]
    refine read_cons_of_next h.nonempty (by rw [Expr.pending, List.length_map, h.length])
      (next_sign ht around) ?_
    intro _
    have hle := Token.priority_le_two c.current
    rw [h.read limit (.signed sign t.pos :: around) c trivial, costOfAll_cons, cost,
      read_settle (by simp [strength]) (by simp [strength]; omega)]
    simp only [Expr.pending, affordable_waiting]
    rfl

/-- An operator, its left operand read: it waits while the right one is read, and is completed
behind it. -/
theorem read_link {rule : Rule} {op : Operator} (limit : Nat) (l : Expr)
    (hr : Derivable rule us r es) (ht : t.isSymbol op.text = true)
    (haround : ∀ k ∈ around.head?, k.strength < op.priority) (c : Cursor)
    (hrule : rule.Admits (.joined op l :: around) c.current)
    (hc : c.current.priority ≤ op.priority) :
    (holding l around).read limit (t :: (us ++ c.rest)) c.finish =
      if Affordable limit (costOfAll around) es (r.pending.map (· + 1)) then
        (holding (.binary (.known op) l r) around).read limit c.rest c.finish
      else .error .tooDeep := by
  have hnext : (holding l around).next t = some (awaiting (.joined op l :: around)) := by
    simp only [next, Token.operator?_eq_some.mpr ht, settle_eq_self l haround]
  have hop := op.one_le_priority
  rw [Partial.read, if_neg (by simp [exceeds]), hnext]
  show (awaiting (.joined op l :: around)).read limit (us ++ c.rest) c.finish = _
  rw [hr.read limit _ c hrule, costOfAll_cons, cost, read_settle (k := .joined op l) hop hc]
  simp only [affordable_waiting]
  rfl

theorem Derivable.product {op : Operator} (hl : Derivable .product ts l ds)
    (hop : op.priority = 2) (ht : t.isSymbol op.text = true) (hr : Derivable .signed us r es) :
    Derivable .product (ts ++ t :: us) (.binary (.known op) l r) (ds ++ es) where
  grouped := by
    obtain ⟨n, hg⟩ := hl.grouped
    obtain ⟨m, hg'⟩ := hr.grouped
    exact ⟨n + m, hg.join hg' ht⟩
  nonempty := by simp [hl.nonempty]
  length := by simp [Expr.pending, hl.length, hr.length]
  read limit around c haround := by
    have hleft := hl.read limit around ⟨t :: (us ++ c.rest), c.finish⟩ haround
    have hlink := read_link limit l hr ht (by rwa [hop]) c trivial
      (by rw [hop]; exact Token.priority_le_two _)
    rw [List.append_assoc, List.cons_append, hleft, hlink, Expr.pending]
    simp only [affordable_append hl.length, ite_and]

theorem Derivable.sum {op : Operator} (hl : Derivable .sum ts l ds)
    (hop : op.priority = 1) (ht : t.isSymbol op.text = true) (hr : Derivable .product us r es) :
    Derivable .sum (ts ++ t :: us) (.binary (.known op) l r) (ds ++ es) where
  grouped := by
    obtain ⟨n, hg⟩ := hl.grouped
    obtain ⟨m, hg'⟩ := hr.grouped
    exact ⟨n + m, hg.join hg' ht⟩
  nonempty := by simp [hl.nonempty]
  length := by simp [Expr.pending, hl.length, hr.length]
  read limit around c hadmits := by
    have hpriority : t.priority ≤ 1 := by rw [Token.priority_of_isSymbol ht, hop]
    have hleft := hl.read limit around ⟨t :: (us ++ c.rest), c.finish⟩ ⟨hadmits.1, hpriority⟩
    have hlink := read_link limit l hr ht (by rw [hop]; exact hadmits.1) c
      (by simp [Rule.Admits, strength, hop]) (by rw [hop]; exact hadmits.2)
    rw [List.append_assoc, List.cons_append, hleft, hlink, Expr.pending]
    simp only [affordable_append hl.length, ite_and]

end Derivable

theorem Derives.derivable {rule : Rule} {ts : List Token} {e : Expr} (h : Derives rule ts e) :
    ∃ ds, Derivable rule ts e ds := by
  induction h with
  | number ht hx => exact ⟨[0], derivable_number ht hx⟩
  | group ht _ hu ih =>
    obtain ⟨ds, h⟩ := ih
    exact ⟨_, h.group ht hu⟩
  | operand _ ih =>
    obtain ⟨ds, h⟩ := ih
    exact ⟨ds, h.grouped, h.nonempty, h.length, h.read⟩
  | signed ht _ ih =>
    obtain ⟨ds, h⟩ := ih
    exact ⟨ds, h.sign ht⟩
  | factor _ ih =>
    obtain ⟨ds, h⟩ := ih
    refine ⟨ds, h.grouped, h.nonempty, h.length, fun limit around c _ => ?_⟩
    exact h.read limit around c trivial
  | product _ hop ht _ ihl ihr =>
    obtain ⟨ds, hl⟩ := ihl
    obtain ⟨es, hr⟩ := ihr
    exact ⟨_, hl.product (by rcases hop with rfl | rfl <;> rfl) ht hr⟩
  | term _ ih =>
    obtain ⟨ds, h⟩ := ih
    refine ⟨ds, h.grouped, h.nonempty, h.length, fun limit around c hadmits => ?_⟩
    exact h.read limit around c fun k hk => Nat.lt_succ_of_lt (hadmits.1 k hk)
  | sum _ hop ht _ ihl ihr =>
    obtain ⟨ds, hl⟩ := ihl
    obtain ⟨es, hr⟩ := ihr
    exact ⟨_, hl.sum (by rcases hop with rfl | rfl <;> rfl) ht hr⟩

/-- **Whether a spelling is nested too deeply** depends on the groups around its numbers and on what
waits at them, and on nothing else. -/
theorem parse_of_derives {s : Source} {e : Expr} (h : Derives .sum (Lexer.tokens s).1 e) :
    parse s = if Affordable Descent.nestingLimit 0 (depthsFrom 0 (Lexer.tokens s).1) e.pending then
      .ok e else .error .tooDeep := by
  obtain ⟨ds, hd⟩ := h.derivable
  obtain ⟨n, hg⟩ := hd.grouped
  have hread := hd.read Descent.nestingLimit [] ⟨[], (Lexer.tokens s).2⟩
    ⟨by simp, Nat.zero_le 1⟩
  rw [List.append_nil] at hread
  rw [parse_eq_read, start, hread, hg.eq.2]
  show Except.mapError _ (if Affordable Descent.nestingLimit 0 ds e.pending then _ else _) = _
  split_ifs <;> rfl

/-! ## The text of a tree -/

/-- The shape of a tree, with its signs and operators and without its numbers. -/
def Expr.shape (e : Expr) : Expr := e.mapLiterals fun _ => ⟨0⟩

/-- The groups of a text. -/
def Source.groups (s : Source) : Nat := groupsOf (Lexer.tokens s).1

/-- How many groups stand around each number of a text, from the first number to the last. -/
def Source.depths (s : Source) : List Nat := depthsFrom 0 (Lexer.tokens s).1

section Shape

variable {e e' : Expr}

theorem Expr.leastGroups_of_shape (h : e.shape = e'.shape) : e.leastGroups = e'.leastGroups := by
  have hforced := congrArg leastGroups h
  rwa [shape, shape, leastGroups_mapLiterals, leastGroups_mapLiterals] at hforced

theorem Expr.shape_mapLiterals (f : Binary64 → Binary64) (e : Expr) :
    (e.mapLiterals f).shape = e.shape := by
  induction e with
  | literal x => rfl
  | unary m e ih =>
    show Expr.unary m (e.mapLiterals f).shape = .unary m e.shape
    rw [ih]
  | binary m l r ihl ihr =>
    show Expr.binary m (l.mapLiterals f).shape (r.mapLiterals f).shape = .binary m l.shape r.shape
    rw [ihl, ihr]
  | foreign kind => rfl

end Shape

/-- A text that is parsed has the groups that its tree forces. -/
theorem suffices_of_parse {s : Source} {e : Expr} (h : parse s = .ok e) :
    e.leastGroups ≤ s.groups ∧ List.Forall₂ (· ≤ ·) e.leastDepths s.depths := by
  obtain ⟨n, ds, hg, hs⟩ := (spells_iff.mp (spells_of_parse h)).grouped
  obtain ⟨rfl, rfl⟩ := hg.eq
  have hcount := hs.count
  have hdepths := hs.depths
  rw [List.forall₂_map_left_iff] at hdepths
  exact ⟨Nat.le_of_add_right_le hcount, hdepths.imp fun a b hab => Nat.le_of_add_right_le hab⟩

/-- **A tree that was parsed is written and parsed again**, with its numbers rounded to two places:
the text has just the groups that the tree forces, so it is nested no deeper than the text from
which the tree came. -/
theorem format_of_parse {s : Source} {e : Expr} (h : parse s = .ok e) :
    ∃ text : String, e.format = .ok text ∧
      parse (.text text.toList) = .ok (e.mapLiterals Binary64.reread) ∧
      (Source.text text.toList).groups = e.leastGroups ∧
      (Source.text text.toList).depths = e.leastDepths := by
  have hd := spells_iff.mp (spells_of_parse h)
  obtain ⟨hsupported, hliterals⟩ := hd.supported
  have hfinite : ∀ x ∈ e.literals, x.isFinite = true := fun x hx => (hliterals x hx).1
  obtain ⟨p, hp, hold⟩ := e.exists_phrase hsupported hfinite
  obtain ⟨q, hq, hminimal⟩ := e.exists_minimal hsupported hfinite
  obtain rfl : p = q := Except.ok.inj (hp.symm.trans hq)
  obtain ⟨hgroups, hdepths⟩ := (Yields.tokens hminimal.yields).eq
  refine ⟨p.text, Expr.format_of_phrase hp, ?_, hgroups, hdepths⟩
  have hreread : e.reread = e.mapLiterals Binary64.reread :=
    Expr.reread_eq_mapLiterals fun x hx => (hliterals x hx).2
  have hwrites : Writes p.text.toList .sum e.reread := Writes.weaken (Nat.zero_le _) hold
  rw [hreread] at hwrites
  -- the text from which the tree came was affordable, and its numbers stand no less deep
  have haffordable := parse_of_derives hd
  rw [h] at haffordable
  have hsource : Affordable Descent.nestingLimit 0 s.depths e.pending := by
    by_contra hno
    rw [Source.depths] at hno
    rw [if_neg hno] at haffordable
    cases haffordable
  rw [parse_of_derives (Yields.tokens hwrites), if_pos]
  rw [Expr.pending_mapLiterals, hdepths]
  exact hsource.mono (suffices_of_parse h).2

/-- **Formatted text is minimally parenthesised.** The text of a tree that was parsed is read as a
tree of the same shape. It has no more groups than the text from which the tree came, and each of
its numbers stands in no more groups than there; no text of a tree of the same shape has fewer; and
without an opening parenthesis of it and a closing one that follows, it is read as a tree of another
shape or not at all. -/
theorem format_minimally_parenthesised (s : Source) (e : Expr) (h : parse s = .ok e) :
    ∃ text : String, e.format = .ok text ∧
      (∃ e', parse (.text text.toList) = .ok e' ∧ e'.shape = e.shape) ∧
      (Source.text text.toList).groups ≤ s.groups ∧
      List.Forall₂ (· ≤ ·) (Source.text text.toList).depths s.depths ∧
      (∀ s' e', parse s' = .ok e' → e'.shape = e.shape →
        (Source.text text.toList).groups ≤ s'.groups) ∧
      ∀ before inside after, text.toList = before ++ '(' :: (inside ++ ')' :: after) →
        ∀ e', parse (.text (before ++ (inside ++ after))) = .ok e' → e'.shape ≠ e.shape := by
  obtain ⟨text, hformat, hparse, hgroups, hdepths⟩ := format_of_parse h
  have hleast : ∀ s' e', parse s' = .ok e' → e'.shape = e.shape →
      (Source.text text.toList).groups ≤ s'.groups := by
    intro s' e' hparse' hshape
    rw [hgroups, ← Expr.leastGroups_of_shape hshape]
    exact (suffices_of_parse hparse').1
  refine ⟨text, hformat, ⟨_, hparse, Expr.shape_mapLiterals _ e⟩, hleast s e h rfl, ?_, hleast, ?_⟩
  · rw [hdepths]
    exact (suffices_of_parse h).2
  · intro before inside after htext e' hparse' hshape
    -- one parenthesis less is one group less
    have hle := hleast _ e' hparse' hshape
    rw [Source.groups, Source.groups, groupsOf_tokens, groupsOf_tokens] at hle
    have hcount : text.toList.count '(' = (before ++ (inside ++ after)).count '(' + 1 := by
      rw [htext]
      simp only [List.count_append, List.count_cons_self, Nat.add_assoc,
        List.count_cons_of_ne (show ')' ≠ '(' by decide)]
    have hchars : text.toList.count '(' ≤ (before ++ (inside ++ after)).count '(' := by
      simpa using hle
    omega

/-- `(1)-((2+3))` is written with one of its three groups, and without that one the text is read as
another tree or not at all. -/
theorem format_minimally_parenthesised_difference :
    (Source.text "1.00 - (2.00 + 3.00)".toList).groups ≤ 3 ∧
      List.Forall₂ (· ≤ ·) (Source.text "1.00 - (2.00 + 3.00)".toList).depths [1, 2, 2] ∧
      ∀ e, parse (.text "1.00 - 2.00 + 3.00".toList) = .ok e →
        e.shape ≠ (Expr.binary (.known .sub) (.literal ⟨0x3FF0000000000000⟩)
          (.binary (.known .add) (.literal ⟨0x4000000000000000⟩)
            (.literal ⟨0x4008000000000000⟩))).shape := by
  obtain ⟨text, hformat, -, hgroups, hdepths, -, hdelete⟩ := format_minimally_parenthesised
    (.text ['(', '1', ')', '-', '(', '(', '2', '+', '3', ')', ')'])
    (.binary (.known .sub) (.literal ⟨0x3FF0000000000000⟩)
      (.binary (.known .add) (.literal ⟨0x4000000000000000⟩) (.literal ⟨0x4008000000000000⟩)))
    (by decide +kernel)
  have htext : (Expr.binary (.known .sub) (.literal ⟨0x3FF0000000000000⟩)
      (.binary (.known .add) (.literal ⟨0x4000000000000000⟩)
        (.literal ⟨0x4008000000000000⟩))).format = .ok "1.00 - (2.00 + 3.00)" := by decide +kernel
  obtain rfl : text = "1.00 - (2.00 + 3.00)" := Except.ok.inj (hformat.symm.trans htext)
  have hsource : (Source.text ['(', '1', ')', '-', '(', '(', '2', '+', '3', ')', ')']).depths =
      [1, 2, 2] := by decide +kernel
  rw [hsource] at hdepths
  exact ⟨Nat.le_trans hgroups (by decide +kernel), hdepths,
    hdelete "1.00 - ".toList "2.00 + 3.00".toList [] (by decide)⟩

end Calculator
