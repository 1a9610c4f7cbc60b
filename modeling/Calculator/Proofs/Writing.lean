import Calculator.Proofs.Acceptance

/-!
# Texts that write a tree

Whether a text writes a tree depends on what surrounds it: a number goes on into the digits behind
it, and a sum holds together only in parentheses. `Yields` says so of a text by itself. Wherever it
stands, behind blanks and in front of something that closes it, the lexer reads tokens from it with
a given property, and stands right behind it. There is one lemma for each way of putting such texts
together. `Writes` is the case in which the tokens derive a tree by a given rule.
-/

namespace Calculator

open Lexer

/-- What may stand behind a text without changing how it is read. -/
def Closes (rest : List Char) : Prop := ∀ c ∈ rest.head?, c = ' ' ∨ c = ')'

/-- A text of which the lexer reads tokens with a property, whatever surrounds it. -/
def Yields (cs : List Char) (P : List Token → Prop) : Prop :=
  ∀ (r : Reader) (blanks rest : List Char), (∀ c ∈ blanks, Text.isBlank c = true) →
    r.toList = blanks ++ (cs ++ rest) → Closes rest →
    ∃ ts r', Run r ts r' ∧ r'.toList = rest ∧ P ts

/-- A text of which the lexer reads tokens that derive a tree, whatever surrounds it. -/
def Writes (cs : List Char) (rule : Rule) (e : Expr) : Prop := Yields cs (Derives rule · e)

/-! ## One token -/

/-- The token behind blanks is the lexeme that stands there, and the reader stands behind it. -/
theorem run_lexeme {r : Reader} {blanks cs : List Char}
    (hb : ∀ c ∈ blanks, Text.isBlank c = true) (h : r.toList = blanks ++ cs) (hne : cs ≠ [])
    (hc : ∀ c ∈ cs.head?, Text.isBlank c = false) :
    ∃ r', Run r [⟨(lexeme cs).1, String.ofList (lexeme cs).2, r.position + blanks.length⟩] r' ∧
      r.Passes (blanks ++ (lexeme cs).2) r' := by
  obtain ⟨c, cs, rfl⟩ := List.exists_cons_of_ne_nil hne
  have hblank : Text.isBlank c = false := hc c rfl
  have hdrop : r.toList.dropWhile Text.isBlank = c :: cs := by
    rw [h, List.dropWhile_append_of_pos hb]
    simp [hblank]
  have htake : r.toList.takeWhile Text.isBlank = blanks := by
    rw [h, List.takeWhile_append_of_pos hb]
    simp [hblank]
  obtain ⟨ht, hp⟩ := token_spec r
  rw [hdrop, htake] at ht hp
  have hk : (token r).1.kind ≠ .eof := by
    rw [ht, Ne, lexeme_kind_eq_eof]
    exact hne
  refine ⟨(token r).2, ?_, hp⟩
  rw [← ht]
  exact .cons hk (.nil _)

theorem run_token {r : Reader} {blanks cs : List Char}
    (hb : ∀ c ∈ blanks, Text.isBlank c = true) (h : r.toList = blanks ++ cs) (hne : cs ≠ [])
    (hc : ∀ c ∈ cs.head?, Text.isBlank c = false) :
    ∃ t r', Run r [t] r' ∧ t.kind = (lexeme cs).1 ∧ t.text = String.ofList (lexeme cs).2 ∧
      r'.toList = cs.drop (lexeme cs).2.length := by
  obtain ⟨r', hrun, hp⟩ := run_lexeme hb h hne hc
  refine ⟨_, r', hrun, rfl, rfl, ?_⟩
  rw [hp.toList_eq, h, List.length_append, List.drop_append]
  simp

/-- The symbols that trees are written with. -/
def isMark (c : Char) : Bool := ['+', '-', '*', '/', '(', ')'].contains c

theorem lexeme_of_isMark {c : Char} (hc : isMark c = true) (cs : List Char) :
    lexeme (c :: cs) = (.symbol, [c]) ∧ Text.isBlank c = false := by
  have hmem : c = '+' ∨ c = '-' ∨ c = '*' ∨ c = '/' ∨ c = '(' ∨ c = ')' := by
    simpa [isMark] using hc
  have hclass : c.isDigit = false ∧ c ≠ '.' ∧ startsName c = false ∧ Text.isBlank c = false := by
    rcases hmem with rfl | rfl | rfl | rfl | rfl | rfl <;> decide
  obtain ⟨hdigit, hdot, hname, hblank⟩ := hclass
  exact ⟨by simp [lexeme, hdigit, hdot, hname], hblank⟩

/-- A symbol needs nothing to close it. -/
theorem run_symbol {r : Reader} {blanks cs : List Char} {c : Char}
    (hb : ∀ c ∈ blanks, Text.isBlank c = true) (h : r.toList = blanks ++ c :: cs)
    (hc : isMark c = true) :
    ∃ t r', Run r [t] r' ∧ t.isSymbol (String.ofList [c]) = true ∧ r'.toList = cs := by
  obtain ⟨hlex, hblank⟩ := lexeme_of_isMark hc cs
  obtain ⟨t, r', hrun, hk, ht, hr'⟩ :=
    run_token hb h (List.cons_ne_nil c cs) (by simpa using hblank)
  rw [hlex] at hk ht hr'
  exact ⟨t, r', hrun, by simp [Token.isSymbol, hk, ht], hr'⟩

section Number

variable {whole fraction rest : List Char}

/-- What follows neither goes on with the digits of a number nor with a fraction or an exponent. -/
def EndsNumber (rest : List Char) : Prop :=
  rest.takeWhile Char.isDigit = [] ∧ fractionOf rest = [] ∧ exponentOf rest = []

theorem Closes.endsNumber (h : Closes rest) : EndsNumber rest := by
  cases rest with
  | nil => exact ⟨rfl, rfl, rfl⟩
  | cons c cs => rcases h c rfl with rfl | rfl <;> exact ⟨rfl, rfl, rfl⟩

theorem fractionOf_point (hf : ∀ d ∈ fraction, d.isDigit = true) (hrest : EndsNumber rest) :
    fractionOf ('.' :: (fraction ++ rest)) = '.' :: fraction := by
  have htake : (fraction ++ rest).takeWhile Char.isDigit = fraction := by
    rw [List.takeWhile_append_of_pos hf, hrest.1, List.append_nil]
  simp [fractionOf, Reader.firstIf, htake]

theorem lexeme_number (hne : whole ≠ []) (hw : ∀ d ∈ whole, d.isDigit = true)
    (hf : ∀ d ∈ fraction, d.isDigit = true) (hrest : EndsNumber rest) :
    lexeme (whole ++ '.' :: (fraction ++ rest)) = (.decimal, whole ++ '.' :: fraction) := by
  have hdigits : (whole ++ '.' :: (fraction ++ rest)).takeWhile Char.isDigit = whole := by
    rw [List.takeWhile_append_of_pos hw]
    simp
  have hnumber : numberOf (whole ++ '.' :: (fraction ++ rest)) =
      (.decimal, whole ++ '.' :: fraction) := by
    simp only [numberOf, hdigits, List.drop_left, fractionOf_point hf hrest]
    simp [hrest.2.2]
  obtain ⟨c, cs, rfl⟩ := List.exists_cons_of_ne_nil hne
  rw [← hnumber, List.cons_append, lexeme, if_pos (hw c List.mem_cons_self)]

theorem isBlank_of_isDigit {c : Char} (h : c.isDigit = true) : Text.isBlank c = false := by
  obtain ⟨hlow, hhigh⟩ := Char.isDigit_iff_toNat.mp h
  simp only [Char.reduceToNat] at hlow hhigh
  simp only [Text.isBlank, Text.within, Text.blankBoundaries, Text.insideAt]
  rw [if_neg (by omega), if_neg (by omega), if_neg (by omega), if_neg (by omega),
    if_pos (by omega)]
  rfl

/-- A number with digits before and behind its point is one token. -/
theorem yields_number (hne : whole ≠ []) (hw : ∀ d ∈ whole, d.isDigit = true)
    (hf : ∀ d ∈ fraction, d.isDigit = true) :
    Yields (whole ++ '.' :: fraction) fun ts => ∃ t, ts = [t] ∧ t.isNumber = true ∧
      t.text = String.ofList (whole ++ '.' :: fraction) := by
  intro r blanks rest hb h hrest
  rw [List.append_assoc, List.cons_append] at h
  have hblank : ∀ c ∈ (whole ++ '.' :: (fraction ++ rest)).head?, Text.isBlank c = false := by
    intro c hc
    obtain ⟨d, ds, rfl⟩ := List.exists_cons_of_ne_nil hne
    obtain rfl : d = c := by simpa using hc
    exact isBlank_of_isDigit (hw d List.mem_cons_self)
  obtain ⟨t, r', hrun, hk, ht, hr'⟩ := run_token hb h (by simp) hblank
  rw [lexeme_number hne hw hf hrest.endsNumber] at hk ht hr'
  refine ⟨[t], r', hrun, ?_, t, rfl, by simp [Token.isNumber, hk], ht⟩
  rw [hr', ← List.cons_append, ← List.append_assoc, List.drop_left]

end Number

/-! ## Putting texts together -/

section Together

variable {cs ds : List Char} {P Q : List Token → Prop}

theorem Yields.imp (h : Yields cs P) (himp : ∀ ts, P ts → Q ts) : Yields cs Q := by
  intro r blanks rest hb hr hrest
  obtain ⟨ts, r', hrun, hr', hts⟩ := h r blanks rest hb hr hrest
  exact ⟨ts, r', hrun, hr', himp ts hts⟩

theorem Yields.sign (h : Yields cs P) (sign : Sign) :
    Yields (sign.text.toList ++ cs) fun ts =>
      ∃ t us, ts = t :: us ∧ t.isSymbol sign.text = true ∧ P us := by
  intro r blanks rest hb hr hrest
  obtain ⟨c, hc, htext⟩ : ∃ c, isMark c = true ∧ sign.text = String.ofList [c] := by
    cases sign
    · exact ⟨'+', rfl, rfl⟩
    · exact ⟨'-', rfl, rfl⟩
  rw [htext, String.toList_ofList, List.append_assoc, List.singleton_append] at hr
  obtain ⟨t, r₁, hrun, ht, hr₁⟩ := run_symbol hb hr hc
  obtain ⟨us, r₂, hrun', hr₂, hus⟩ := h r₁ [] rest (by simp) hr₁ hrest
  refine ⟨t :: us, r₂, hrun.append hrun', hr₂, t, us, rfl, ?_, hus⟩
  rwa [htext]

/-- A text in parentheses. -/
theorem Yields.group (h : Yields cs P) :
    Yields ('(' :: cs ++ [')']) fun ts => ∃ t us u, ts = t :: us ++ [u] ∧
      t.isSymbol "(" = true ∧ P us ∧ u.isSymbol ")" = true := by
  intro r blanks rest hb hr hrest
  -- what is inside is closed by the parenthesis, whatever closes the whole
  have hr : r.toList = blanks ++ '(' :: (cs ++ ')' :: rest) := by simpa using hr
  obtain ⟨t, r₁, hrun₁, ht, hr₁⟩ := run_symbol hb hr (by decide)
  obtain ⟨us, r₂, hrun₂, hr₂, hus⟩ := h r₁ [] (')' :: rest) (by simp) hr₁ (by simp [Closes])
  replace hr₂ : r₂.toList = [] ++ ')' :: rest := hr₂
  obtain ⟨u, r₃, hrun₃, hu, hr₃⟩ := run_symbol (by simp) hr₂ (by decide)
  exact ⟨t :: us ++ [u], r₃, (hrun₁.append hrun₂).append hrun₃, hr₃, t, us, u, rfl, ht, hus, hu⟩

/-- Two texts with an operator between them. -/
theorem Yields.join (h : Yields cs P) (h' : Yields ds Q) (op : Operator) :
    Yields (cs ++ ' ' :: (op.text.toList ++ ' ' :: ds)) fun ts =>
      ∃ us t vs, ts = us ++ t :: vs ∧ P us ∧ t.isSymbol op.text = true ∧ Q vs := by
  intro r₀ blanks rest hb hr hrest
  obtain ⟨c, hc, htext⟩ : ∃ c, isMark c = true ∧ op.text = String.ofList [c] := by
    cases op
    · exact ⟨'+', rfl, rfl⟩
    · exact ⟨'-', rfl, rfl⟩
    · exact ⟨'*', rfl, rfl⟩
    · exact ⟨'/', rfl, rfl⟩
  have hr : r₀.toList = blanks ++ (cs ++ ' ' :: c :: ' ' :: (ds ++ rest)) := by
    rw [hr, htext]
    simp
  obtain ⟨us, r₁, hrun₁, hr₁, hus⟩ := h r₀ blanks _ hb hr (by simp [Closes])
  have hspace : ∀ c ∈ [' '], Text.isBlank c = true := by
    intro c hc
    rw [List.mem_singleton.mp hc]
    decide
  obtain ⟨t, r₂, hrun₂, ht, hr₂⟩ := run_symbol hspace hr₁ hc
  obtain ⟨vs, r₃, hrun₃, hr₃, hvs⟩ := h' r₂ [' '] rest hspace hr₂ hrest
  refine ⟨us ++ t :: vs, r₃, hrun₁.append (hrun₂.append hrun₃), hr₃, us, t, vs, rfl, hus, ?_, hvs⟩
  rwa [htext]

end Together

/-! ## Texts that write a tree -/

section Trees

variable {cs ds : List Char} {e l r : Expr}

theorem Writes.weaken {p q : Nat} (hpq : p ≤ q) (h : Writes cs (.ofStrength q) e) :
    Writes cs (.ofStrength p) e := by
  induction hpq with
  | refl => exact h
  | step _ ih => exact ih (Yields.imp h fun _ hd => hd.weaken)

theorem Writes.ofSigned (h : Writes cs .signed e) (p : Nat) : Writes cs (.ofStrength p) e :=
  Yields.imp h fun _ hd => hd.ofSigned p

theorem Writes.operand (h : Writes cs .primary e) : Writes cs .signed e :=
  Yields.imp h fun _ hd => .operand hd

/-- A number of which the value is known. -/
theorem writes_number {whole fraction : List Char} {x : Binary64} (hne : whole ≠ [])
    (hw : ∀ d ∈ whole, d.isDigit = true) (hf : ∀ d ∈ fraction, d.isDigit = true)
    (hx : Descent.numberValue (String.ofList (whole ++ '.' :: fraction)) = .ok x) :
    Writes (whole ++ '.' :: fraction) .primary (.literal x) := by
  refine (yields_number hne hw hf).imp ?_
  rintro _ ⟨t, rfl, hn, ht⟩
  exact .number hn (by rwa [ht])

theorem Writes.sign (h : Writes cs .signed e) (sign : Sign) :
    Writes (sign.text.toList ++ cs) .signed (.unary (.known sign) e) := by
  refine (Yields.sign h sign).imp ?_
  rintro _ ⟨t, us, rfl, ht, hd⟩
  exact .signed ht hd

theorem Writes.group (h : Writes cs .sum e) : Writes ('(' :: cs ++ [')']) .primary e := by
  refine (Yields.group h).imp ?_
  rintro _ ⟨t, us, u, rfl, ht, hd, hu⟩
  exact .group ht hd hu

/-- The left text holds together as strongly as the operator at least, and the right one more
strongly. -/
theorem Writes.join (op : Operator) (hl : Writes cs (.ofStrength op.priority) l)
    (hr : Writes ds (.ofStrength (op.priority + 1)) r) :
    Writes (cs ++ ' ' :: (op.text.toList ++ ' ' :: ds)) (.ofStrength op.priority)
      (.binary (.known op) l r) := by
  refine (Yields.join hl hr op).imp ?_
  rintro _ ⟨us, t, vs, rfl, hdl, ht, hdr⟩
  exact hdl.link ht hdr

end Trees

/-! ## A whole text -/

/-- On its own, a text gives just those tokens. -/
theorem Yields.tokens {cs : List Char} {P : List Token → Prop} (h : Yields cs P) :
    P (Lexer.tokens (.text cs)).1 := by
  have hall : (Reader.ofSource (.text cs)).toList = [] ++ (cs ++ []) := by simp
  obtain ⟨ts, r', hrun, hr', hts⟩ := h _ [] [] (by simp) hall (by simp [Closes])
  have heof : (token r').1.kind = .eof := by
    rw [kind_token, hr']
    rfl
  rwa [tokens_of_run hrun heof]

/-- A text that writes a tree by itself is parsed to that tree, unless it is nested too deeply. -/
theorem Writes.parse_eq {cs : List Char} {e : Expr} (h : Writes cs .sum e)
    (hdeep : parse (.text cs) ≠ .error .tooDeep) : parse (.text cs) = .ok e :=
  parse_of_spells (spells_iff.mpr (Yields.tokens h)) hdeep

end Calculator
