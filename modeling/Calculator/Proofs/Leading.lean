import Calculator.Proofs.Divisors
import Calculator.Proofs.Numerals
import Calculator.Proofs.ViablePrefix

/-!
# Texts that are written piece by piece

A text that grows by one token at a time leads, read from the left, from one partial expression to
the next. `Leads` says so of the text by itself: what may follow is limited only by the last token,
which must end where it ends. There is one lemma for each piece that a random expression is written
with, and each of them says what becomes of the constructs that are open.

The constructs that such a text leaves open are kept track of by `Pending`: how many groups there
are, how many numbers stand before them, and whether a division waits for its right operand. Nothing
but a number, perhaps with a sign, is written where one does; so every divisor is a number.
-/

namespace Calculator

open Construct Lexer Partial

/-! ## One token more -/

/-- What may follow the text that led to a partial expression. -/
def Partial.ClosedBy : Partial → List Char → Prop
  | awaiting _, _ => True
  | holding _ _, rest => EndsNumber rest

/-- A text whose tokens lead to a partial expression of the given kind, whatever follows that lets
the last one end. Blanks at its end may still be unread. -/
def Leads (cs : List Char) (good : Partial → Prop) : Prop :=
  ∃ ts p taken blanks, good p ∧ Reaches Descent.nestingLimit start ts p ∧
    cs = taken ++ blanks ∧ (∀ c ∈ blanks, Text.isBlank c = true) ∧
    ∀ r rest, r.toList = cs ++ rest → r.position = 0 → p.ClosedBy rest →
      ∃ r', Run r ts r' ∧ r.Passes taken r'

section Token

variable {cs lead trail : List Char} {good good' : Partial → Prop}

theorem Leads.imp (h : Leads cs good) (himp : ∀ p, good p → good' p) : Leads cs good' := by
  obtain ⟨ts, p, taken, blanks, hp, h⟩ := h
  exact ⟨ts, p, taken, blanks, himp p hp, h⟩

/-- **One token more**, with blanks before and behind it. -/
theorem Leads.token (kind : TokenKind) (word : List Char) (h : Leads cs good)
    (hlead : ∀ c ∈ lead, Text.isBlank c = true) (htrail : ∀ c ∈ trail, Text.isBlank c = true)
    (hword : ∃ c ds, word = c :: ds ∧ Text.isBlank c = false)
    (hstep : ∀ p, good p → p.exceeds Descent.nestingLimit = false ∧
      ∃ p', p.next ⟨kind, String.ofList word, cs.length + lead.length⟩ = some p' ∧ good' p' ∧
        ∀ rest, p'.ClosedBy rest → p.ClosedBy (lead ++ (word ++ (trail ++ rest))) ∧
          lexeme (word ++ (trail ++ rest)) = (kind, word)) :
    Leads (cs ++ (lead ++ (word ++ trail))) good' := by
  obtain ⟨ts, p, taken, blanks, hp, hreach, rfl, hblanks, hrun⟩ := h
  obtain ⟨hshallow, p', hnext, hp', hclosed⟩ := hstep p hp
  refine ⟨_, p', taken ++ (blanks ++ lead) ++ word, trail, hp',
    hreach.append (.token hshallow hnext), by simp, htrail, ?_⟩
  intro r rest hr hpos hrest
  obtain ⟨hends, hlex⟩ := hclosed rest hrest
  obtain ⟨r₁, hrun₁, hpass₁⟩ :=
    hrun r (lead ++ (word ++ (trail ++ rest))) (by simpa using hr) hpos hends
  -- blanks that were left unread stand before those of the new piece
  have hr₁ : r₁.toList = blanks ++ lead ++ (word ++ (trail ++ rest)) := by
    rw [hpass₁.toList_eq, hr]
    simp
  obtain ⟨c, ds, rfl, hc⟩ := hword
  obtain ⟨r₂, hrun₂, hpass₂⟩ := run_lexeme (by simpa [or_imp, forall_and] using ⟨hblanks, hlead⟩)
    hr₁ (by simp) (by simpa using hc)
  rw [hlex] at hrun₂ hpass₂
  refine ⟨r₂, ?_, by simpa using hpass₁.trans hpass₂⟩
  -- so the offset of the token does not depend on how many they are
  have hposition : r₁.position + (blanks ++ lead).length =
      (taken ++ blanks).length + lead.length := by
    rw [hpass₁.2, hpos]
    simp only [List.length_append]
    omega
  rw [hposition] at hrun₂
  exact hrun₁.append hrun₂

/-- One symbol more. -/
theorem Leads.symbol {c : Char} (lead trail : List Char) (h : Leads cs good)
    (hlead : ∀ c ∈ lead, Text.isBlank c = true) (htrail : ∀ c ∈ trail, Text.isBlank c = true)
    (hc : isMark c = true)
    (hstep : ∀ p offset, good p → p.exceeds Descent.nestingLimit = false ∧
      (∀ rest, p.ClosedBy (lead ++ c :: rest)) ∧
      ∃ p', p.next ⟨.symbol, String.ofList [c], offset⟩ = some p' ∧ good' p') :
    Leads (cs ++ (lead ++ c :: trail)) good' := by
  refine h.token .symbol [c] hlead htrail ⟨c, [], rfl, (lexeme_of_isMark hc []).2⟩ ?_
  intro p hp
  obtain ⟨hshallow, hclosed, p', hnext, hp'⟩ := hstep p _ hp
  exact ⟨hshallow, p', hnext, hp', fun rest _ => ⟨hclosed _, (lexeme_of_isMark hc _).1⟩⟩

end Token

/-- A text that leads to a complete expression is parsed to it, with blanks behind it or without,
however it is cut. -/
theorem Leads.exists_parse {cs : List Char} {good : Partial → Prop} {Q : Expr → Prop}
    (h : Leads cs good) (hgood : ∀ p, good p → ∃ e, p.complete? = some e ∧ Q e) :
    ∃ e, Q e ∧ ∀ (s : Source) (tail : List Char), s.pieces.flatten = cs ++ tail →
      (∀ c ∈ tail, Text.isBlank c = true) → EndsNumber tail → parse s = .ok e := by
  obtain ⟨ts, p, taken, blanks, hp, hreach, hcs, hblanks, hrun⟩ := h
  obtain ⟨e, hcomplete, hQ⟩ := hgood p hp
  refine ⟨e, hQ, ?_⟩
  intro s tail hs htail hends
  have hclosed : p.ClosedBy tail := by
    cases p with
    | awaiting around => trivial
    | holding operand around => exact hends
  obtain ⟨r, hrun, hpass⟩ := hrun (.ofSource s) tail hs rfl hclosed
  -- nothing but blanks is left
  have hr : r.toList = blanks ++ tail := by
    rw [hpass.toList_eq, Reader.toList_ofSource, hs, hcs]
    simp
  have heof : (Lexer.token r).1.kind = .eof := by
    rw [kind_token_eq_eof, hr]
    simpa [or_imp, forall_and] using ⟨hblanks, htail⟩
  have hread : start.read Descent.nestingLimit ts (Lexer.token r).1.pos = .ok e :=
    read_eq_ok.mpr ⟨p, hreach, hcomplete⟩
  rw [parse_eq_read, tokens_of_run hrun heof, hread]
  rfl

/-! ## What is open -/

/-- Constructs that a random expression leaves open, with the number of groups and of numbers among
them: each operator binds more strongly than what is around it, and none but the innermost is a
division, if `division` says so. -/
inductive Pending : Bool → Nat → Nat → List Construct → Prop where
  | nil : Pending false 0 0 []
  | group {depth numbers offset : Nat} {around : List Construct}
      (h : Pending false depth numbers around) :
      Pending false (depth + 1) numbers (.group offset :: around)
  | joined {division : Bool} {depth numbers : Nat} {op : Operator} {left : Expr}
      {around : List Construct} (hop : division = decide (op = .div))
      (h : Pending false depth numbers around) (hs : ∀ k ∈ around.head?, k.strength < op.priority)
      (hl : left.Safe) :
      Pending division depth (numbers + left.literals.length) (.joined op left :: around)

section Pending

variable {division : Bool} {depth numbers : Nat} {around : List Construct} {e : Expr}

theorem Pending.strength_le (h : Pending division depth numbers around) :
    ∀ k ∈ around.head?, k.strength ≤ 2 := by
  cases h with
  | nil => simp
  | group _ => simp [strength]
  | joined _ _ _ _ => simpa [strength] using Operator.priority_le_two _

/-- Each group costs a constant, and so do the operators in it: there is at most one of each
strength. -/
theorem Pending.costOfAll_le (h : Pending division depth numbers around) {bound : Nat}
    (hb : ∀ k ∈ around.head?, k.strength ≤ bound) : costOfAll around ≤ 6 * depth + bound := by
  induction h generalizing bound with
  | nil => simp [costOfAll]
  | group h ih =>
    have := ih h.strength_le
    simp only [costOfAll, cost] at this ⊢
    omega
  | @joined _ depth numbers op left around _ _ hs _ ih =>
    have hop : op.priority ≤ bound := hb _ rfl
    have hpos := op.one_le_priority
    have : costOfAll around ≤ 6 * depth + (op.priority - 1) :=
      ih fun k hk => Nat.le_sub_one_of_lt (hs k hk)
    simp only [costOfAll, cost] at this ⊢
    omega

/-- A random expression is never nested too deeply, with room for one more sign. -/
theorem Pending.costOfAll_lt (h : Pending division depth numbers around)
    (hd : depth ≤ Generator.maxDepth) : costOfAll around < Descent.nestingLimit := by
  have hcost := h.costOfAll_le h.strength_le
  rw [Generator.maxDepth] at hd
  rw [show Descent.nestingLimit = 996 from rfl]
  omega

/-- An operand has been read. Whatever is completed around it, because of an operator or of an end,
is a tree that divides by numbers, and all numbers stay. -/
def Held (depth numbers : Nat) (e : Expr) (around : List Construct) : Prop :=
  ∀ strength, 1 ≤ strength → strength ≤ 2 → ∃ left outer before,
    settle strength e around = (left, outer) ∧ left.Safe ∧ Pending false depth before outer ∧
      before + left.literals.length = numbers

theorem Pending.held (h : Pending division depth numbers around) (he : e.Safe)
    (hd : division = true → e.NonzeroNumber) :
    Held depth (numbers + e.literals.length) e around := by
  intro strength h1 h2
  induction h generalizing e with
  | nil => exact ⟨e, [], 0, rfl, he, .nil, rfl⟩
  | @group depth numbers offset around h _ =>
    exact ⟨e, _, numbers, settle_eq_self e (by simp; exact h1), he, .group h, rfl⟩
  | @joined _ depth numbers op left around hdivision h hs hl ih =>
    by_cases hop : strength ≤ op.priority
    · obtain ⟨left', outer, before, hsettle, hleft, hpending, hnumbers⟩ :=
        ih (e := .binary (.known op) left e) (hl.binary he fun h => hd (by simp [hdivision, h]))
          (by simp)
      refine ⟨left', outer, before, ?_, hleft, hpending, ?_⟩
      · rwa [settle_cons_of_le hop]
      · simpa [Expr.literals, Nat.add_assoc] using hnumbers
    · -- the operator stays open, and is no division: it is weaker than one
      have hdiv : false = decide (op = .div) := by
        cases op <;> simp [Operator.priority] at hop ⊢
        omega
      refine ⟨e, _, _, settle_eq_self e ?_, he, ?_, rfl⟩
      · intro k hk
        obtain rfl : Construct.joined op left = k := by simpa using hk
        exact Nat.not_le.mp hop
      · exact .joined hdiv h hs hl

/-- Where the operators around it are over, an operand stands in a group, or nothing is open. -/
theorem Held.settle_one (h : Held depth numbers e around) :
    ∃ left, left.Safe ∧
      ((depth = 0 ∧ settle 1 e around = (left, []) ∧ left.literals.length = numbers) ∨
        ∃ inner offset outer, depth = inner + 1 ∧
          settle 1 e around = (left, .group offset :: outer) ∧ Held inner numbers left outer) := by
  obtain ⟨left, outer, before, hsettle, hleft, hpending, rfl⟩ := h 1 (by decide) (by decide)
  have hhead := settle_head_lt 1 e around
  rw [hsettle] at hhead
  refine ⟨left, hleft, ?_⟩
  cases hpending with
  | nil => exact .inl ⟨rfl, hsettle, (Nat.zero_add _).symm⟩
  | group hpending => exact .inr ⟨_, _, _, rfl, hsettle, hpending.held hleft (by simp)⟩
  | joined _ _ _ _ =>
    obtain ⟨offset, hgroup⟩ := eq_group_of_strength_lt (hhead _ rfl)
    cases hgroup

end Pending

/-! ## The pieces of a random expression -/

/-- A term must follow. -/
inductive BeforeTerm (division : Bool) (depth numbers : Nat) : Partial → Prop where
  | mk {around : List Construct} (h : Pending division depth numbers around) :
      BeforeTerm division depth numbers (.awaiting around)

/-- A number must follow, behind a sign or not. -/
inductive BeforeNumber (division : Bool) (depth numbers : Nat) : Partial → Prop where
  | bare {around : List Construct} (h : Pending division depth numbers around) :
      BeforeNumber division depth numbers (.awaiting around)
  | signed {around : List Construct} (sign : Sign) (offset : Nat)
      (h : Pending division depth numbers around) :
      BeforeNumber division depth numbers (.awaiting (.signed sign offset :: around))

/-- A term has been read. -/
inductive BehindTerm (depth numbers : Nat) : Partial → Prop where
  | mk {e : Expr} {around : List Construct} (h : Held depth numbers e around) :
      BehindTerm depth numbers (.holding e around)

section Pieces

variable {cs : List Char} {division : Bool} {depth numbers : Nat}

theorem leads_start : Leads [] (BeforeTerm false 0 0) := by
  refine ⟨[], start, [], [], .mk .nil, .nil start, rfl, by simp, ?_⟩
  intro r rest _ _ _
  exact ⟨r, .nil r, .of_eq rfl rfl⟩

theorem Leads.openGroup (h : Leads cs (BeforeTerm false depth numbers))
    (hd : depth ≤ Generator.maxDepth) :
    Leads (cs ++ ['(']) (BeforeTerm false (depth + 1) numbers) := by
  refine h.symbol [] [] (by simp) (by simp) (by decide) ?_
  rintro _ offset ⟨hp⟩
  exact ⟨Descent.not_exceeds (hp.costOfAll_lt hd).le, fun _ => trivial, _, rfl, .mk (.group hp)⟩

theorem Leads.sign (h : Leads cs (BeforeTerm division depth numbers))
    (hd : depth ≤ Generator.maxDepth) (sign : Sign) :
    Leads (cs ++ sign.text.toList) (BeforeNumber division depth numbers) := by
  obtain ⟨c, htext, hmark, hsign⟩ : ∃ c, sign.text.toList = [c] ∧ isMark c = true ∧
      ∀ around offset, (awaiting around).next ⟨.symbol, String.ofList [c], offset⟩ =
        some (awaiting (.signed sign offset :: around)) := by
    cases sign
    · exact ⟨'+', rfl, by decide, fun _ _ => rfl⟩
    · exact ⟨'-', rfl, by decide, fun _ _ => rfl⟩
  rw [htext]
  refine h.symbol [] [] (by simp) (by simp) hmark ?_
  rintro _ offset ⟨hp⟩
  exact ⟨Descent.not_exceeds (hp.costOfAll_lt hd).le, fun _ => trivial, _, hsign _ _,
    .signed sign offset hp⟩

/-- What a number leads to, with its sign or without. -/
theorem BeforeNumber.next {p : Partial} (h : BeforeNumber division depth numbers p)
    (hd : depth ≤ Generator.maxDepth) {t : Token} {x : Binary64} (ht : t.isNumber = true)
    (hx : Descent.numberValue t.text = .ok x) (hzero : x.isZero = false) :
    p.exceeds Descent.nestingLimit = false ∧ (∀ rest, p.ClosedBy rest) ∧
      ∃ e around, p.next t = some (holding e around) ∧ Held depth (numbers + 1) e around := by
  have hliteral : (Expr.literal x).Safe := ⟨trivial, trivial⟩
  have hnext : ∀ around, (awaiting around).next t = some (holding (.literal x) around) := by
    intro around
    simp [Partial.next, ht, hx]
  cases h with
  | bare h =>
    exact ⟨Descent.not_exceeds (h.costOfAll_lt hd).le, fun _ => trivial, _, _, hnext _,
      h.held hliteral fun _ => hzero⟩
  | @signed around sign offset h =>
    refine ⟨Descent.not_exceeds ?_, fun _ => trivial, _, _, hnext _, ?_⟩
    · have := h.costOfAll_lt hd
      simp only [costOfAll, cost] at this ⊢
      omega
    · intro strength h1 h2
      rw [settle_cons_of_le (by simp only [Construct.strength]; omega)]
      exact h.held (e := .unary (.known sign) (.literal x)) (hliteral.unary sign) (fun _ => hzero)
        strength h1 h2

theorem Leads.number (h : Leads cs (BeforeNumber division depth numbers))
    (hd : depth ≤ Generator.maxDepth) {ds : List Char} {x : Binary64} (hn : Numeral ds x) :
    Leads (cs ++ ds) (BehindTerm depth (numbers + 1)) := by
  obtain ⟨d, ds', hfirst, hdigit⟩ := hn.first
  obtain ⟨kind, hkind, hlex⟩ := hn.lexeme
  have ht : ∀ offset, (Token.mk kind (String.ofList ds) offset).isNumber = true := by
    rcases hkind with rfl | rfl <;> intro offset <;> rfl
  have hleads : Leads (cs ++ ([] ++ (ds ++ []))) (BehindTerm depth (numbers + 1)) := by
    refine h.token kind ds (by simp) (by simp) ⟨d, ds', hfirst, isBlank_of_isDigit hdigit⟩ ?_
    intro p hp
    obtain ⟨hshallow, hclosed, e, around, hnext, hheld⟩ := hp.next hd (ht _) hn.value hn.nonzero
    exact ⟨hshallow, _, hnext, .mk hheld, fun rest hrest => ⟨hclosed _, hlex rest hrest⟩⟩
  simpa using hleads

/-- What closes a group ends the number before it. -/
theorem endsNumber_close (rest : List Char) : EndsNumber (')' :: rest) := ⟨rfl, rfl, rfl⟩

theorem Leads.closeGroup (h : Leads cs (BehindTerm (depth + 1) numbers)) :
    Leads (cs ++ [')']) (BehindTerm depth numbers) := by
  refine h.symbol [] [] (by simp) (by simp) (by decide) ?_
  rintro _ offset @⟨e, around, hheld⟩
  obtain ⟨left, -, ⟨hdepth, -⟩ | ⟨inner, offset', outer, hdepth, hsettle, hheld⟩⟩ :=
    hheld.settle_one
  · omega
  · obtain rfl : depth = inner := by omega
    refine ⟨rfl, endsNumber_close, holding left outer, ?_, .mk hheld⟩
    simp [Partial.next, Token.operator?, Operator.ofText?, Token.isSymbol, hsettle]

theorem Leads.join (h : Leads cs (BehindTerm depth numbers)) (op : Operator) :
    Leads (cs ++ (" " ++ op.text ++ " ").toList)
      (BeforeTerm (decide (op = .div)) depth numbers) := by
  obtain ⟨c, htext, hmark, hop⟩ : ∃ c, (" " ++ op.text ++ " ").toList = [' '] ++ c :: [' '] ∧
      isMark c = true ∧ ∀ offset, (Token.mk .symbol (String.ofList [c]) offset).operator? =
        some op := by
    cases op
    · exact ⟨'+', by decide, by decide, fun _ => rfl⟩
    · exact ⟨'-', by decide, by decide, fun _ => rfl⟩
    · exact ⟨'*', by decide, by decide, fun _ => rfl⟩
    · exact ⟨'/', by decide, by decide, fun _ => rfl⟩
  rw [htext]
  have hspace : ∀ c ∈ [' '], Text.isBlank c = true := List.forall_mem_singleton.mpr (by decide)
  refine h.symbol [' '] [' '] hspace hspace hmark ?_
  rintro _ offset @⟨e, around, hheld⟩
  obtain ⟨left, outer, before, hsettle, hleft, hpending, rfl⟩ :=
    hheld op.priority op.one_le_priority op.priority_le_two
  have hhead := settle_head_lt op.priority e around
  rw [hsettle] at hhead
  refine ⟨rfl, fun rest => ⟨rfl, rfl, rfl⟩, awaiting (.joined op left :: outer), ?_,
    .mk (.joined rfl hpending hhead hleft)⟩
  simp only [Partial.next, hop, hsettle]

/-- A term with no group left open completes the expression. -/
theorem BehindTerm.complete {p : Partial} (h : BehindTerm 0 numbers p) :
    ∃ e, p.complete? = some e ∧ e.Safe ∧ e.literals.length = numbers := by
  obtain @⟨e, around, hheld⟩ := h
  obtain ⟨left, hleft, ⟨-, hsettle, hnumbers⟩ | ⟨inner, _, _, hdepth, -⟩⟩ := hheld.settle_one
  · exact ⟨left, by simp [complete?, hsettle], hleft, hnumbers⟩
  · omega

end Pieces

end Calculator
