import Calculator.Proofs.Surroundings

/-!
# A group in the place of a number

A number is the smallest operand, and a group stands wherever a number can stand. So a text may be
composed of others: where a number of one text is replaced by another text in parentheses, the tree
of the one gets the tree of the other in the place of that leaf.

The grammar has this by induction on the derivation, `Derives.substitutes`. The text has it because
neither what is put in nor what surrounds it changes the tokens of the other: parentheses end every
token, and a group reads the same wherever it stands.
-/

namespace Calculator

open Lexer

/-! ## Words and derivations -/

section Words

variable {t u : Token} {ts us vs : List Token}

theorem Token.isSymbol_of_word (h : u.word = t.word) (s : String) :
    u.isSymbol s = t.isSymbol s := by
  obtain ⟨hkind, htext⟩ := Prod.mk.inj h
  rw [isSymbol, isSymbol, hkind, htext]

theorem Token.isNumber_of_word (h : u.word = t.word) : u.isNumber = t.isNumber := by
  obtain ⟨hkind, -⟩ := Prod.mk.inj h
  rw [isNumber, isNumber, hkind]

/-- Words of a list around one of its tokens. -/
theorem exists_of_words_append (h : vs.map Token.word = (ts ++ t :: us).map Token.word) :
    ∃ ts' u us', vs = ts' ++ u :: us' ∧ ts'.map Token.word = ts.map Token.word ∧
      u.word = t.word ∧ us'.map Token.word = us.map Token.word := by
  rw [List.map_append, List.map_cons] at h
  obtain ⟨ts', rest, rfl, hts, hrest⟩ := List.map_eq_append_iff.mp h
  obtain ⟨u, us', rfl, hu, hus⟩ := List.map_eq_cons_iff.mp hrest
  exact ⟨ts', u, us', rfl, hts, hu, hus⟩

/-- The grammar reads words: offsets do not matter to it. -/
theorem Derives.respell {rule : Rule} {e : Expr} (h : Derives rule ts e)
    (hwords : us.map Token.word = ts.map Token.word) : Derives rule us e := by
  induction h generalizing us with
  | number ht hx =>
    obtain ⟨u, us', rfl, hu, hus⟩ := List.map_eq_cons_iff.mp hwords
    obtain rfl := List.map_eq_nil_iff.mp hus
    refine .number ((Token.isNumber_of_word hu).trans ht) ?_
    rw [(Prod.mk.inj hu).2]
    exact hx
  | group ht _ hu ih =>
    obtain ⟨ts', u', us', rfl, hts, hu', hus⟩ := exists_of_words_append hwords
    obtain rfl := List.map_eq_nil_iff.mp hus
    obtain ⟨t', ts', rfl, ht', hts⟩ := List.map_eq_cons_iff.mp hts
    exact .group ((Token.isSymbol_of_word ht' _).trans ht) (ih hts)
      ((Token.isSymbol_of_word hu' _).trans hu)
  | operand _ ih => exact .operand (ih hwords)
  | signed ht _ ih =>
    obtain ⟨t', ts', rfl, ht', hts⟩ := List.map_eq_cons_iff.mp hwords
    exact .signed ((Token.isSymbol_of_word ht' _).trans ht) (ih hts)
  | factor _ ih => exact .factor (ih hwords)
  | product _ hop ht _ ihl ihr =>
    obtain ⟨ts', t', us', rfl, hts, ht', hus⟩ := exists_of_words_append hwords
    exact .product (ihl hts) hop ((Token.isSymbol_of_word ht' _).trans ht) (ihr hus)
  | term _ ih => exact .term (ih hwords)
  | sum _ hop ht _ ihl ihr =>
    obtain ⟨ts', t', us', rfl, hts, ht', hus⟩ := exists_of_words_append hwords
    exact .sum (ihl hts) hop ((Token.isSymbol_of_word ht' _).trans ht) (ihr hus)

end Words

/-! ## Leaves -/

namespace Expr

/-- The tree with another one in the place of one of its numbers, of which `k` stand on its left. -/
def graft : Expr → Nat → Expr → Expr
  | literal _, 0, a => a
  | literal x, _ + 1, _ => literal x
  | unary m e, k, a => unary m (e.graft k a)
  | binary m l r, k, a =>
    if k < l.literals.length then binary m (l.graft k a) r
    else binary m l (r.graft (k - l.literals.length) a)
  | foreign kind, _, _ => foreign kind

end Expr

/-- How many numbers there are among tokens. -/
def numbersOf (ts : List Token) : Nat := ts.countP Token.isNumber

section Numbers

variable {t : Token} {ts us : List Token}

@[simp] theorem numbersOf_append : numbersOf (ts ++ us) = numbersOf ts + numbersOf us :=
  List.countP_append

theorem numbersOf_cons_of_isNumber (h : t.isNumber = true) :
    numbersOf (t :: ts) = numbersOf ts + 1 := List.countP_cons_of_pos h

theorem numbersOf_cons_of_isSymbol {s : String} (h : t.isSymbol s = true) :
    numbersOf (t :: ts) = numbersOf ts :=
  List.countP_cons_of_neg (by simp [Token.isNumber_of_isSymbol h])

/-- Tokens have as many numbers as their words. -/
theorem numbersOf_of_words (h : us.map Token.word = ts.map Token.word) :
    numbersOf us = numbersOf ts := by
  have hkinds : ∀ ts : List Token, numbersOf ts =
      (ts.map Token.word).countP fun w => w.1 = .whole || w.1 = .decimal := by
    intro ts
    rw [List.countP_map]
    rfl
  rw [hkinds us, hkinds ts, h]

/-- The numbers of a tree are those of its tokens. -/
theorem Derives.length_literals {rule : Rule} {e : Expr} (h : Derives rule ts e) :
    e.literals.length = numbersOf ts := by
  induction h with
  | number ht _ => rw [numbersOf_cons_of_isNumber ht]; rfl
  | group ht _ hu ih =>
    rw [numbersOf_append, numbersOf_cons_of_isSymbol ht, numbersOf_cons_of_isSymbol hu, ih]
    rfl
  | operand _ ih => exact ih
  | signed ht _ ih => rw [numbersOf_cons_of_isSymbol ht, ← ih, Expr.literals]
  | factor _ ih => exact ih
  | product _ _ ht _ ihl ihr =>
    rw [numbersOf_append, numbersOf_cons_of_isSymbol ht, Expr.literals, List.length_append, ihl, ihr]
  | term _ ih => exact ih
  | sum _ _ ht _ ihl ihr =>
    rw [numbersOf_append, numbersOf_cons_of_isSymbol ht, Expr.literals, List.length_append, ihl, ihr]

end Numbers

/-! ## Groups in the place of numbers -/

/-- Tokens derive a tree by a rule, and with a primary in the place of any of their numbers they
derive the tree with that one in the place of the leaf, which holds the value of the number. -/
structure Substitutes (rule : Rule) (ts : List Token) (e : Expr) : Prop where
  derives : Derives rule ts e
  substitute : ∀ before t after, ts = before ++ t :: after → t.isNumber = true →
    (∃ x, Descent.numberValue t.text = .ok x ∧ e.literals[numbersOf before]? = some x) ∧
    ∀ gs a, Derives .primary gs a →
      Derives rule (before ++ (gs ++ after)) (e.graft (numbersOf before) a)

section Substitutes

variable {rule rule' : Rule} {ts us : List Token} {t u : Token} {e l r : Expr}

/-- A rule that only weakens another one. -/
theorem Substitutes.weaken (h : Substitutes rule ts e)
    (hrule : ∀ {ts e}, Derives rule ts e → Derives rule' ts e) : Substitutes rule' ts e where
  derives := hrule h.derives
  substitute before t after hts ht := by
    obtain ⟨hleaf, hgroup⟩ := h.substitute before t after hts ht
    exact ⟨hleaf, fun gs a ha => hrule (hgroup gs a ha)⟩

theorem substitutes_number {x : Binary64} (ht : t.isNumber = true)
    (hx : Descent.numberValue t.text = .ok x) : Substitutes .primary [t] (.literal x) where
  derives := .number ht hx
  substitute before u after hts _ := by
    obtain ⟨rfl, rfl, rfl⟩ : before = [] ∧ t = u ∧ after = [] := by
      cases before with
      | nil => simpa using hts
      | cons v vs => simp at hts
    refine ⟨⟨x, hx, rfl⟩, fun gs a ha => ?_⟩
    simpa [numbersOf, Expr.graft] using ha

/-- No number is a symbol, so one that is looked for stands before or behind it. -/
theorem exists_of_append_eq (ts : List Token) {before after : List Token} (hu : u.isNumber = false)
    (ht : t.isNumber = true) (h : ts ++ u :: us = before ++ t :: after) :
    (∃ vs, ts = before ++ t :: vs ∧ after = vs ++ u :: us) ∨
      ∃ vs, before = ts ++ u :: vs ∧ us = vs ++ t :: after := by
  rcases List.append_eq_append_iff.mp h with ⟨vs, rfl, hvs⟩ | ⟨vs, rfl, hvs⟩
  · cases vs with
    | nil =>
      obtain ⟨rfl, -⟩ := List.cons.inj hvs
      rw [hu] at ht
      cases ht
    | cons v vs =>
      obtain ⟨rfl, rfl⟩ := List.cons.inj hvs
      exact .inr ⟨vs, rfl, rfl⟩
  · cases vs with
    | nil =>
      obtain ⟨rfl, -⟩ := List.cons.inj hvs
      rw [hu] at ht
      cases ht
    | cons v vs =>
      obtain ⟨rfl, rfl⟩ := List.cons.inj hvs
      exact .inl ⟨vs, rfl, rfl⟩

theorem Substitutes.sign {sign : Sign} (h : Substitutes .signed ts e)
    (ht : t.isSymbol sign.text = true) :
    Substitutes .signed (t :: ts) (.unary (.known sign) e) where
  derives := .signed ht h.derives
  substitute before u after hts hu := by
    obtain ⟨vs, hvs, -⟩ | ⟨vs, rfl, rfl⟩ :=
      exists_of_append_eq [] (Token.isNumber_of_isSymbol ht) hu hts
    · simp at hvs
    · obtain ⟨hleaf, hgroup⟩ := h.substitute vs u after rfl hu
      rw [List.nil_append, numbersOf_cons_of_isSymbol ht]
      exact ⟨hleaf, fun gs a ha => .signed ht (hgroup gs a ha)⟩

theorem Substitutes.group (h : Substitutes .sum ts e) (ht : t.isSymbol "(" = true)
    (hu : u.isSymbol ")" = true) : Substitutes .primary (t :: ts ++ [u]) e where
  derives := .group ht h.derives hu
  substitute before v after hts hv := by
    obtain ⟨vs, hvs, rfl⟩ | ⟨vs, -, hvs⟩ :=
      exists_of_append_eq _ (Token.isNumber_of_isSymbol hu) hv hts
    · obtain ⟨ws, hws, -⟩ | ⟨ws, rfl, rfl⟩ :=
        exists_of_append_eq [] (Token.isNumber_of_isSymbol ht) hv hvs
      · simp at hws
      · obtain ⟨hleaf, hgroup⟩ := h.substitute ws v vs rfl hv
        rw [List.nil_append, numbersOf_cons_of_isSymbol ht]
        refine ⟨hleaf, fun gs a ha => ?_⟩
        have hnew := Derives.group ht (hgroup gs a ha) hu
        simpa using hnew
    · simp at hvs

/-- Two operands and an operator between them: the number stands in one of the operands, and the
other one stays. -/
theorem Substitutes.join {op : Operator} (hl : Substitutes rule ts l)
    (hr : Substitutes rule' us r) (ht : t.isSymbol op.text = true)
    (hjoin : ∀ {ts us l r}, Derives rule ts l → Derives rule' us r →
      Derives rule (ts ++ t :: us) (.binary (.known op) l r)) :
    Substitutes rule (ts ++ t :: us) (.binary (.known op) l r) where
  derives := hjoin hl.derives hr.derives
  substitute before v after hts hv := by
    have hlength := hl.derives.length_literals
    obtain ⟨vs, rfl, rfl⟩ | ⟨vs, rfl, rfl⟩ :=
      exists_of_append_eq _ (Token.isNumber_of_isSymbol ht) hv hts
    · obtain ⟨⟨x, hx, hleaf⟩, hgroup⟩ := hl.substitute before v vs rfl hv
      have hlt : numbersOf before < l.literals.length := (List.getElem?_eq_some_iff.mp hleaf).1
      refine ⟨⟨x, hx, ?_⟩, fun gs a ha => ?_⟩
      · rw [Expr.literals, List.getElem?_append_left hlt, hleaf]
      · rw [Expr.graft, if_pos hlt]
        have hnew := hjoin (hgroup gs a ha) hr.derives
        simpa using hnew
    · obtain ⟨⟨x, hx, hleaf⟩, hgroup⟩ := hr.substitute vs v after rfl hv
      have hcount : numbersOf (ts ++ t :: vs) = l.literals.length + numbersOf vs := by
        rw [numbersOf_append, numbersOf_cons_of_isSymbol ht, hlength]
      have hnot : ¬ l.literals.length + numbersOf vs < l.literals.length := by omega
      rw [hcount]
      refine ⟨⟨x, hx, ?_⟩, fun gs a ha => ?_⟩
      · rw [Expr.literals, List.getElem?_append_right (Nat.le_add_right _ _),
          Nat.add_sub_cancel_left, hleaf]
      · rw [Expr.graft, if_neg hnot, Nat.add_sub_cancel_left]
        have hnew := hjoin hl.derives (hgroup gs a ha)
        simpa using hnew

end Substitutes

/-- **A group is an operand wherever a number is one**: at every strength, on either side of an
operator, behind any signs and in any groups. -/
theorem Derives.substitutes {rule : Rule} {ts : List Token} {e : Expr} (h : Derives rule ts e) :
    Substitutes rule ts e := by
  induction h with
  | number ht hx => exact substitutes_number ht hx
  | group ht _ hu ih => exact ih.group ht hu
  | operand _ ih => exact ih.weaken .operand
  | signed ht _ ih => exact ih.sign ht
  | factor _ ih => exact ih.weaken .factor
  | product _ hop ht _ ihl ihr => exact ihl.join ihr ht fun hl hr => .product hl hop ht hr
  | term _ ih => exact ih.weaken .term
  | sum _ hop ht _ ihl ihr => exact ihl.join ihr ht fun hl hr => .sum hl hop ht hr

/-! ## Texts -/

/-- The text with another one, in parentheses, in the place of a token. -/
def Token.replacedIn (t : Token) (cs added : List Char) : List Char :=
  cs.take t.pos ++ '(' :: (added ++ ')' :: cs.drop (t.pos + t.text.length))

/-- A text in parentheses is a primary wherever it stands. -/
theorem exists_run_group {added : List Char} {a : Expr} (h : Spells (.text added) a) {q : Reader}
    {blanks rest : List Char} (hb : ∀ c ∈ blanks, Text.isBlank c = true)
    (hq : q.toList = blanks ++ '(' :: (added ++ ')' :: rest)) :
    ∃ gs q', Run q gs q' ∧ q'.toList = rest ∧ Derives .primary gs a := by
  obtain ⟨ts, r, hrun, heof, -⟩ := exists_run (.ofSource (.text added))
  rw [spells_iff, tokens_of_run hrun heof] at h
  obtain ⟨taken, htaken, -⟩ := hrun.exists_passes
  have hadded : added = taken ++ r.toList := by simpa using htaken
  obtain ⟨t, q₁, hopen, ht, hq₁⟩ := run_symbol hb hq (by decide)
  -- the closing parenthesis ends the last token, unless blanks do
  have hends : EndsToken ')' := by decide
  have hreplaces : Replaces r.toList (r.toList ++ ')' :: rest) := by
    have hnil := (Replaces.of_endsToken hends [] rest).append r.toList
    rwa [List.append_nil] at hnil
  rw [hadded, List.append_assoc] at hq₁
  obtain ⟨us, q₂, hinside, hq₂, hwords⟩ := hrun.elsewhere htaken hreplaces hq₁
  obtain ⟨u, q₃, hclose, hu, hq₃⟩ := run_symbol (kind_token_eq_eof.mp heof) hq₂ (by decide)
  exact ⟨t :: us ++ [u], q₃, (hopen.append hinside).append hclose, hq₃,
    .group ht (h.respell hwords) hu⟩

/-- In front of a token and behind it, the text stays as it was. -/
theorem replacedIn_token {r : Reader} {before : List Char} (added : List Char)
    (hr : r.position = before.length) :
    ∃ blanks, (∀ c ∈ blanks, Text.isBlank c = true) ∧
      (∃ word, r.toList = blanks ++ (word ++ (token r).2.toList)) ∧
      (token r).1.replacedIn (before ++ r.toList) added =
        before ++ (blanks ++ '(' :: (added ++ ')' :: (token r).2.toList)) := by
  obtain ⟨ht, hp, -⟩ := token_spec r
  have hblanks : ∀ c ∈ r.toList.takeWhile Text.isBlank, Text.isBlank c = true :=
    fun c hc => List.mem_takeWhile_imp hc
  rw [List.append_assoc] at hp
  generalize r.toList.takeWhile Text.isBlank = blanks at *
  generalize (lexeme (r.toList.dropWhile Text.isBlank)).2 = word at *
  have hpos : (token r).1.pos = (before ++ blanks).length := by
    rw [ht, List.length_append, hr]
  have hend : (token r).1.pos + (token r).1.text.length = (before ++ (blanks ++ word)).length := by
    rw [hpos, ht, String.length_ofList]
    simp only [List.length_append]
    omega
  refine ⟨blanks, hblanks, ⟨word, hp⟩, ?_⟩
  have htake : (before ++ r.toList).take (before ++ blanks).length = before ++ blanks := by
    rw [hp, ← List.append_assoc, List.take_left]
  have hdrop : (before ++ r.toList).drop (before ++ (blanks ++ word)).length =
      (token r).2.toList := by
    rw [hp, ← List.append_assoc blanks, ← List.append_assoc before (blanks ++ word),
      List.drop_left]
  rw [Token.replacedIn, hend, hpos, htake, hdrop, List.append_assoc]

/-- **A number of a text may be replaced by another text in parentheses**: what is spelled then is
the tree of the one with the tree of the other in the place of the leaf. -/
theorem Spells.replacedIn {cs added : List Char} {e a : Expr} {ts us : List Token} {t : Token}
    (h : Spells (.text cs) e) (ha : Spells (.text added) a)
    (htokens : (Lexer.tokens (.text cs)).1 = ts ++ t :: us) (ht : t.isNumber = true) :
    Spells (.text (t.replacedIn cs added)) (e.graft (numbersOf ts) a) := by
  obtain ⟨all, r, hrun, heof, -⟩ := exists_run (.ofSource (.text cs))
  rw [spells_iff, htokens] at h
  rw [tokens_of_run hrun heof] at htokens
  simp only at htokens
  rw [htokens] at hrun
  obtain ⟨r₁, hts, hrest⟩ := hrun.exists_between
  cases hrest with
  | cons hk hus =>
    obtain ⟨before, hbefore, hposition⟩ := hts.exists_passes
    obtain ⟨blanks, hblanks, ⟨word, hword⟩, htext⟩ :=
      replacedIn_token added (by simpa using hposition)
    rw [← hbefore] at htext
    rw [Reader.toList_ofSource, Reader.flatten_text] at htext
    -- the tokens in front, up to an opening parenthesis in the place of the number
    have hopen : EndsToken '(' := by decide
    have hreplaces : Replaces r₁.toList
        (blanks ++ '(' :: (added ++ ')' :: (token r₁).2.toList)) := by
      rw [hword]
      exact (Replaces.of_endsToken hopen _ _).append blanks
    have hq : (Reader.ofSource (.text ((token r₁).1.replacedIn cs added))).toList =
        before ++ (blanks ++ '(' :: (added ++ ')' :: (token r₁).2.toList)) := by
      rw [Reader.toList_ofSource, Reader.flatten_text, htext]
    obtain ⟨ts', q₁, hrun₁, hq₁, hwords₁⟩ := hts.elsewhere hbefore hreplaces hq
    obtain ⟨gs, q₂, hrun₂, hq₂, hgroup⟩ := exists_run_group ha hblanks hq₁
    -- the tokens behind, where nothing has changed
    obtain ⟨more, hmore, -⟩ := hus.exists_passes
    obtain ⟨us', q₃, hrun₃, hq₃, hwords₃⟩ :=
      hus.elsewhere hmore (.refl _) (hq₂.trans hmore)
    have heof' : (token q₃).1.kind = .eof := by
      rw [kind_token_eq_eof] at heof ⊢
      rwa [hq₃]
    rw [spells_iff, tokens_of_run (hrun₁.append (hrun₂.append hrun₃)) heof']
    have hrespelled : Derives .sum (ts' ++ (token r₁).1 :: us') e :=
      h.respell (by simp [hwords₁, hwords₃])
    rw [← numbersOf_of_words hwords₁]
    exact (hrespelled.substitutes.substitute ts' _ us' rfl ht).2 gs a hgroup

/-- A text in parentheses writes its tree as a primary. -/
theorem Spells.writes {cs : List Char} {e : Expr} (h : Spells (.text cs) e) :
    Writes ('(' :: cs ++ [')']) .primary e := by
  intro r blanks rest hb hr _
  exact exists_run_group h hb (by simpa using hr)

/-- **A group may stand for a number.** In a text that is parsed, any number may be replaced by
another such text in parentheses. Unless that is nested too deeply it is parsed too, to the tree of
the one with the tree of the other in the place of the leaf of that number, and nothing else
changed. In particular a text in parentheses has the tree that it has without; and two of them with
an operator between them have the tree of that operator over their trees. -/
theorem parse_replacedIn :
    (∀ cs e ts t us, parse (.text cs) = .ok e → (Lexer.tokens (.text cs)).1 = ts ++ t :: us →
      t.isNumber = true →
      (∃ x, Descent.numberValue t.text = .ok x ∧ e.literals[numbersOf ts]? = some x) ∧
      ∀ added a, parse (.text added) = .ok a →
        parse (.text (t.replacedIn cs added)) ≠ .error .tooDeep →
        parse (.text (t.replacedIn cs added)) = .ok (e.graft (numbersOf ts) a)) ∧
    (∀ cs e, parse (.text cs) = .ok e →
      parse (.text ('(' :: cs ++ [')'])) ≠ .error .tooDeep →
      parse (.text ('(' :: cs ++ [')'])) = .ok e) ∧
    (∀ cs l ds r (op : Operator), parse (.text cs) = .ok l → parse (.text ds) = .ok r →
      let joined := '(' :: cs ++ [')'] ++ ' ' :: (op.text.toList ++ ' ' :: ('(' :: ds ++ [')']))
      parse (.text joined) ≠ .error .tooDeep →
      parse (.text joined) = .ok (.binary (.known op) l r)) := by
  refine ⟨?_, ?_, ?_⟩
  · intro cs e ts t us h htokens ht
    have hspells := spells_of_parse h
    have hderives := spells_iff.mp hspells
    refine ⟨(hderives.substitutes.substitute ts t us htokens ht).1, ?_⟩
    intro added a ha hdeep
    exact parse_of_spells (hspells.replacedIn (spells_of_parse ha) htokens ht) hdeep
  · intro cs e h hdeep
    exact ((spells_of_parse h).writes.operand.ofSigned 1).parse_eq hdeep
  · intro cs l ds r op hl hr joined hdeep
    have hleft := (spells_of_parse hl).writes.operand.ofSigned op.priority
    have hright := (spells_of_parse hr).writes.operand.ofSigned (op.priority + 1)
    have hjoined := hleft.join op hright
    exact (hjoined.weaken (Nat.zero_le _)).parse_eq hdeep

/-- In `-2*1.5e1/4` the number between the operators, with its point and its exponent, gives way to
a difference that ends in a blank. -/
theorem parse_replacedIn_difference :
    (Token.mk .decimal "1.5e1" 3).replacedIn "-2*1.5e1/4".toList "3-1 ".toList =
        "-2*(3-1 )/4".toList ∧
      parse (.text "-2*(3-1 )/4".toList) = .ok (.binary (.known .div)
        (.binary (.known .mul) (.unary (.known .minus) (.literal ⟨0x4000000000000000⟩))
          (.binary (.known .sub) (.literal ⟨0x4008000000000000⟩) (.literal ⟨0x3FF0000000000000⟩)))
        (.literal ⟨0x4010000000000000⟩)) := by
  have htext : (Token.mk .decimal "1.5e1" 3).replacedIn "-2*1.5e1/4".toList "3-1 ".toList =
      "-2*(3-1 )/4".toList := by decide +kernel
  obtain ⟨-, hreplaced⟩ := parse_replacedIn.1 "-2*1.5e1/4".toList
    (.binary (.known .div)
      (.binary (.known .mul) (.unary (.known .minus) (.literal ⟨0x4000000000000000⟩))
        (.literal ⟨0x402E000000000000⟩)) (.literal ⟨0x4010000000000000⟩))
    [⟨.symbol, "-", 0⟩, ⟨.whole, "2", 1⟩, ⟨.symbol, "*", 2⟩] ⟨.decimal, "1.5e1", 3⟩
    [⟨.symbol, "/", 8⟩, ⟨.whole, "4", 9⟩] (by decide +kernel) (by decide +kernel) rfl
  have hparse := hreplaced "3-1 ".toList
    (.binary (.known .sub) (.literal ⟨0x4008000000000000⟩) (.literal ⟨0x3FF0000000000000⟩))
    (by decide +kernel)
  rw [htext] at hparse
  exact ⟨htext, hparse (by decide +kernel)⟩

end Calculator
