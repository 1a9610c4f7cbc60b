import Calculator.Proofs.RoundTrip
import Mathlib.Data.List.Forall2

/-!
# Groups around the numbers of an expression

A tree can be spelled with any number of parentheses, but not with any small number: an operand that
holds together less strongly than its place asks for must stand in a group. `Expr.leastGroups`
counts the groups that are forced in this way, and `Expr.leastDepths` says how many of them stand
around each number.

Two halves meet there. The tokens of every derivation of the tree have at least these groups, around
each of its numbers, by induction on the derivation: only a group takes its operand from the weakest
rule to the strongest. And the text that is written for the tree has just these groups, by induction
on the tree.
-/

namespace Calculator

open Lexer

/-! ## Counting groups -/

theorem Sign.text_ne (sign : Sign) : sign.text ≠ "(" ∧ sign.text ≠ ")" := by
  cases sign <;> decide

theorem Operator.text_ne (op : Operator) : op.text ≠ "(" ∧ op.text ≠ ")" := by
  cases op <;> decide

/-- How many groups are opened. -/
def groupsOf (ts : List Token) : Nat := ts.countP (·.isSymbol "(")

/-- How many groups are open around each number, from left to right, if `depth` of them are open
around the first token. -/
def depthsFrom : Nat → List Token → List Nat
  | _, [] => []
  | depth, t :: ts =>
    if t.isNumber then depth :: depthsFrom depth ts
    else if t.isSymbol "(" then depthsFrom (depth + 1) ts
    else if t.isSymbol ")" then depthsFrom (depth - 1) ts
    else depthsFrom depth ts

/-- Tokens that close the groups that they open, `count` of them, with `depths` of them around their
numbers. -/
structure Grouped (ts : List Token) (count : Nat) (depths : List Nat) : Prop where
  count : groupsOf ts = count
  depths : ∀ depth us, depthsFrom depth (ts ++ us) = depths.map (· + depth) ++ depthsFrom depth us

namespace Grouped

variable {ts us : List Token} {t u : Token} {n m : Nat} {ds es : List Nat}

theorem eq (h : Grouped ts n ds) : groupsOf ts = n ∧ depthsFrom 0 ts = ds := by
  have hdepths := h.depths 0 []
  refine ⟨h.count, ?_⟩
  simpa [depthsFrom] using hdepths

theorem number (ht : t.isNumber = true) : Grouped [t] 0 [0] := by
  have hopen := Token.isSymbol_of_isNumber ht "("
  refine ⟨by simp [groupsOf, hopen], ?_⟩
  intro depth us
  simp [depthsFrom, ht]

theorem append (h : Grouped ts n ds) (h' : Grouped us m es) :
    Grouped (ts ++ us) (n + m) (ds ++ es) := by
  refine ⟨?_, ?_⟩
  · rw [← h.count, ← h'.count]
    exact List.countP_append
  · intro depth vs
    rw [List.append_assoc, h.depths, h'.depths, List.map_append, List.append_assoc]

/-- A symbol that is no parenthesis. -/
theorem mark {s : String} (h : Grouped ts n ds) (ht : t.isSymbol s = true) (ho : s ≠ "(")
    (hc : s ≠ ")") : Grouped (t :: ts) n ds := by
  have hopen := Token.isSymbol_of_ne ht ho
  have hclose := Token.isSymbol_of_ne ht hc
  refine ⟨?_, ?_⟩
  · rw [← h.count]
    simp [groupsOf, hopen]
  · intro depth us
    simp [depthsFrom, Token.isNumber_of_isSymbol ht, hopen, hclose, h.depths]

theorem sign (h : Grouped ts n ds) {sign : Sign} (ht : t.isSymbol sign.text = true) :
    Grouped (t :: ts) n ds := h.mark ht sign.text_ne.1 sign.text_ne.2

theorem join (h : Grouped ts n ds) (h' : Grouped us m es) {op : Operator}
    (ht : t.isSymbol op.text = true) : Grouped (ts ++ t :: us) (n + m) (ds ++ es) :=
  h.append (h'.mark ht op.text_ne.1 op.text_ne.2)

theorem group (h : Grouped ts n ds) (ht : t.isSymbol "(" = true) (hu : u.isSymbol ")" = true) :
    Grouped (t :: ts ++ [u]) (n + 1) (ds.map (· + 1)) := by
  have hclose : u.isSymbol "(" = false := Token.isSymbol_of_ne hu (by decide)
  refine ⟨?_, ?_⟩
  · rw [← h.count]
    simp [groupsOf, ht, hclose, Nat.add_comm]
  · intro depth us
    rw [List.append_assoc, List.cons_append]
    simp only [depthsFrom, Token.isNumber_of_isSymbol ht, ht, h.depths, List.singleton_append,
      Token.isNumber_of_isSymbol hu, hu, hclose, Bool.false_eq_true, if_false, if_true]
    simp [Nat.add_comm, Nat.add_left_comm]

end Grouped

/-! ## The groups that a tree forces -/

namespace Expr

/-- The strength at which a tree holds together when it is spelled without a group around it. -/
def strength : Expr → Nat
  | binary (.known op) _ _ => op.priority
  | _ => Phrase.atomStrength

/-- The group around a tree at a place that asks for a strength, if there must be one. -/
def enclosures (e : Expr) (strength : Nat) : Nat := if e.strength < strength then 1 else 0

/-- How many groups a tree forces inside. -/
def leastGroups : Expr → Nat
  | literal _ => 0
  | unary _ e => e.leastGroups + e.enclosures Phrase.atomStrength
  | binary (.known op) l r =>
    l.leastGroups + l.enclosures op.priority + (r.leastGroups + r.enclosures (op.priority + 1))
  | _ => 0

/-- How many groups a tree forces around each of its numbers. -/
def leastDepths : Expr → List Nat
  | literal _ => [0]
  | unary _ e => e.leastDepths.map (· + e.enclosures Phrase.atomStrength)
  | binary (.known op) l r =>
    l.leastDepths.map (· + l.enclosures op.priority) ++
      r.leastDepths.map (· + r.enclosures (op.priority + 1))
  | _ => []

theorem enclosures_le_one (e : Expr) (p : Nat) : e.enclosures p ≤ 1 := by
  rw [enclosures]
  split <;> omega

theorem enclosures_mono (e : Expr) {p q : Nat} (h : p ≤ q) : e.enclosures p ≤ e.enclosures q := by
  simp only [enclosures]
  split_ifs <;> omega

section Numbers

variable (f : Binary64 → Binary64) (e : Expr)

theorem strength_mapLiterals : (e.mapLiterals f).strength = e.strength := by
  cases e with
  | binary m l r => cases m <;> rfl
  | _ => rfl

theorem enclosures_mapLiterals (p : Nat) : (e.mapLiterals f).enclosures p = e.enclosures p := by
  rw [enclosures, strength_mapLiterals, enclosures]

/-- The groups that are forced do not depend on the numbers. -/
theorem leastGroups_mapLiterals : (e.mapLiterals f).leastGroups = e.leastGroups := by
  induction e with
  | literal x => rfl
  | unary m e ih => rw [mapLiterals, leastGroups, leastGroups, ih, enclosures_mapLiterals]
  | binary m l r ihl ihr =>
    cases m with
    | known op => simp only [mapLiterals, leastGroups, ihl, ihr, enclosures_mapLiterals]
    | other text => rfl
  | foreign kind => rfl

end Numbers

end Expr

/-! ## Every spelling has these groups -/

/-- Groups that suffice for a tree at a place that asks for a strength: as many as it forces, and as
many around each of its numbers. -/
structure Suffices (p : Nat) (e : Expr) (count : Nat) (depths : List Nat) : Prop where
  count : e.leastGroups + e.enclosures p ≤ count
  depths : List.Forall₂ (· ≤ ·) (e.leastDepths.map (· + e.enclosures p)) depths

namespace Suffices

variable {p q n m : Nat} {e l r : Expr} {ds es : List Nat}

theorem weaken (h : Suffices q e n ds) (hpq : p ≤ q) : Suffices p e n ds := by
  have hle := e.enclosures_mono hpq
  refine ⟨by have := h.count; omega, ?_⟩
  have hdepths := h.depths
  rw [List.forall₂_map_left_iff] at hdepths ⊢
  exact hdepths.imp fun a b hab => by omega

/-- A group takes a tree to any place. -/
theorem group (h : Suffices p e n ds) (q : Nat) : Suffices q e (n + 1) (ds.map (· + 1)) := by
  have hle := e.enclosures_le_one q
  refine ⟨by have := h.count; omega, ?_⟩
  have hdepths := h.depths
  rw [List.forall₂_map_left_iff] at hdepths ⊢
  rw [List.forall₂_map_right_iff]
  exact hdepths.imp fun a b hab => by omega

theorem sign (h : Suffices Phrase.atomStrength e n ds) (m : Mark Sign) :
    Suffices Phrase.atomStrength (.unary m e) n ds := by
  have hnone : (Expr.unary m e).enclosures Phrase.atomStrength = 0 := rfl
  refine ⟨?_, ?_⟩
  · rw [hnone, Expr.leastGroups]
    exact h.count
  · rw [hnone, Expr.leastDepths]
    simpa [Function.comp_def] using h.depths

theorem join (op : Operator) (hl : Suffices op.priority l n ds)
    (hr : Suffices (op.priority + 1) r m es) :
    Suffices op.priority (.binary (.known op) l r) (n + m) (ds ++ es) := by
  have hnone : (Expr.binary (.known op) l r).enclosures op.priority = 0 :=
    if_neg (Nat.lt_irrefl _)
  refine ⟨?_, ?_⟩
  · rw [hnone, Expr.leastGroups, Nat.add_zero]
    exact Nat.add_le_add hl.count hr.count
  · rw [hnone, Expr.leastDepths]
    simpa [Function.comp_def] using List.rel_append hl.depths hr.depths

end Suffices

/-- The strength that belongs to a rule. Nothing holds together more strongly than a signed
operand. -/
def Rule.strength : Rule → Nat
  | sum => 1
  | product => 2
  | signed => Phrase.atomStrength
  | primary => Phrase.atomStrength

/-- **The tokens of a tree have the groups that it forces**, in every derivation. -/
theorem Derives.grouped {rule : Rule} {ts : List Token} {e : Expr} (h : Derives rule ts e) :
    ∃ n ds, Grouped ts n ds ∧ Suffices rule.strength e n ds := by
  induction h with
  | number ht _ => exact ⟨0, [0], .number ht, Nat.le_refl 0, .cons (Nat.le_refl 0) .nil⟩
  | group ht _ hu ih =>
    obtain ⟨n, ds, hg, hs⟩ := ih
    exact ⟨n + 1, ds.map (· + 1), hg.group ht hu, hs.group _⟩
  | operand _ ih => exact ih
  | signed ht _ ih =>
    obtain ⟨n, ds, hg, hs⟩ := ih
    exact ⟨n, ds, hg.sign ht, hs.sign _⟩
  | factor _ ih =>
    obtain ⟨n, ds, hg, hs⟩ := ih
    exact ⟨n, ds, hg, hs.weaken (by decide)⟩
  | product _ hop ht _ ihl ihr =>
    obtain ⟨n, ds, hg, hs⟩ := ihl
    obtain ⟨m, es, hg', hs'⟩ := ihr
    refine ⟨n + m, ds ++ es, hg.join hg' ht, ?_⟩
    rcases hop with rfl | rfl
    · exact Suffices.join .mul hs hs'
    · exact Suffices.join .div hs hs'
  | term _ ih =>
    obtain ⟨n, ds, hg, hs⟩ := ih
    exact ⟨n, ds, hg, hs.weaken (by decide)⟩
  | sum _ hop ht _ ihl ihr =>
    obtain ⟨n, ds, hg, hs⟩ := ihl
    obtain ⟨m, es, hg', hs'⟩ := ihr
    refine ⟨n + m, ds ++ es, hg.join hg' ht, ?_⟩
    rcases hop with rfl | rfl
    · exact Suffices.join .add hs hs'
    · exact Suffices.join .sub hs hs'

/-! ## The text of a tree has no others -/

namespace Phrase

/-- A phrase whose text has the groups that a tree forces, and no others. -/
structure Minimal (p : Phrase) (e : Expr) : Prop where
  strength : p.strength = e.strength
  yields : Yields p.text.toList (Grouped · e.leastGroups e.leastDepths)

variable {p l r : Phrase} {e e' : Expr}

theorem Minimal.placed (h : p.Minimal e) (strength : Nat) :
    Yields (p.placed strength).toList (Grouped · (e.leastGroups + e.enclosures strength)
      (e.leastDepths.map (· + e.enclosures strength))) := by
  rw [Phrase.placed, Expr.enclosures, ← h.strength]
  by_cases hs : p.strength < strength
  · rw [if_pos hs, if_pos hs, toList_enclosed]
    refine h.yields.group.imp ?_
    rintro _ ⟨t, us, u, rfl, ht, hg, hu⟩
    exact hg.group ht hu
  · rw [if_neg hs, if_neg hs]
    simpa using h.yields

theorem minimal_literal {x : Binary64} (h : x.isFinite = true) :
    (Phrase.literal x).Minimal (.literal x) := by
  have hnumber : Yields (x.unsignedText 2 false) (Grouped · 0 [0]) := by
    refine (yields_number (splitPlaces_ne_nil 2 (x.scaledBy 2))
      (fun d hd => isDigit_of_mem_splitPlaces _ _ (.inl hd))
      (fun d hd => isDigit_of_mem_splitPlaces _ _ (.inr hd))).imp ?_
    rintro _ ⟨t, rfl, ht, -⟩
    exact .number ht
  refine ⟨rfl, ?_⟩
  show Yields (x.fixedText 2 false).toList _
  rw [Binary64.fixedText_of_isFinite h]
  cases x.negative with
  | false => exact hnumber
  | true =>
    refine (hnumber.sign .minus).imp ?_
    rintro _ ⟨t, us, rfl, ht, hg⟩
    exact hg.sign ht

theorem Minimal.unary (h : p.Minimal e) (sign : Sign) :
    (Phrase.unary sign p).Minimal (.unary (.known sign) e) := by
  refine ⟨rfl, ?_⟩
  rw [toList_unary]
  refine ((h.placed atomStrength).sign sign).imp ?_
  rintro _ ⟨t, us, rfl, ht, hg⟩
  exact hg.sign ht

theorem Minimal.binary (hl : l.Minimal e) (hr : r.Minimal e') (op : Operator) :
    (Phrase.binary op l r).Minimal (.binary (.known op) e e') := by
  refine ⟨rfl, ?_⟩
  rw [toList_binary]
  refine ((hl.placed op.priority).join (hr.placed (op.priority + 1)) op).imp ?_
  rintro _ ⟨us, t, vs, rfl, hg, ht, hg'⟩
  exact hg.join hg' ht

end Phrase

/-- The text of a tree has the groups that the tree forces. -/
theorem Expr.exists_minimal {e : Expr} (hs : e.Supported)
    (hf : ∀ x ∈ e.literals, x.isFinite = true) : ∃ p, e.fold .phrase = .ok p ∧ p.Minimal e :=
  exists_phrase_of (fun _ hx => Phrase.minimal_literal hx) (fun sign _ _ h => h.unary sign)
    (fun op _ _ _ _ hl hr => hl.binary hr op) hs hf

/-! ## Parentheses as characters

Each parenthesis of a text is a token of its own, so groups may be counted in the text. -/

namespace Lexer

/-- Whether a character can stand in a number. -/
def inNumber (c : Char) : Bool := c.isDigit || ['.', 'e', 'E', '+', '-'].contains c

theorem inNumber_of_isDigit {c : Char} (h : c.isDigit = true) : inNumber c = true := by
  simp [inNumber, h]

theorem inNumber_of_mem_takeWhile {cs : List Char} {c : Char}
    (h : c ∈ cs.takeWhile Char.isDigit) : inNumber c = true :=
  inNumber_of_isDigit (List.mem_takeWhile_imp h)

theorem eq_of_mem_firstIf {p : Char → Bool} {cs : List Char} {c : Char}
    (h : c ∈ Reader.firstIf p cs) : p c = true := by
  cases cs with
  | nil => cases h
  | cons d ds =>
    rw [Reader.firstIf] at h
    split at h
    · rename_i hd
      rwa [List.mem_singleton.mp h]
    · cases h

theorem inNumber_of_mem_exponentOf {cs : List Char} {c : Char} (h : c ∈ exponentOf cs) :
    inNumber c = true := by
  simp only [exponentOf] at h
  split at h
  · cases h
  · rcases List.mem_append.mp h with h | h
    · rcases List.mem_append.mp h with h | h
      · have := eq_of_mem_firstIf h
        simp only [inNumber, Bool.or_eq_true, decide_eq_true_eq] at this ⊢
        rcases this with rfl | rfl <;> exact .inr rfl
      · have := eq_of_mem_firstIf h
        simp only [inNumber, Bool.or_eq_true, decide_eq_true_eq] at this ⊢
        rcases this with rfl | rfl <;> exact .inr rfl
    · exact inNumber_of_mem_takeWhile h

theorem inNumber_of_mem_fractionOf {cs : List Char} {c : Char} (h : c ∈ fractionOf cs) :
    inNumber c = true := by
  simp only [fractionOf] at h
  split at h
  · cases h
  · rcases List.mem_append.mp h with h | h
    · have := eq_of_mem_firstIf h
      rw [decide_eq_true_eq] at this
      rw [this]
      rfl
    · exact inNumber_of_mem_takeWhile h

/-- A character of a lexeme belongs to a number or to a name, or is a symbol of its own. -/
theorem mem_lexeme {cs : List Char} {c : Char} (h : c ∈ (lexeme cs).2) :
    lexeme cs = (.symbol, [c]) ∨ inNumber c = true ∨ continuesName c = true := by
  cases cs with
  | nil => cases h
  | cons d ds =>
    simp only [lexeme] at h ⊢
    split at h
    · refine .inr (.inl ?_)
      simp only [numberOf, List.mem_append] at h
      rcases h with (h | h) | h
      · exact inNumber_of_mem_takeWhile h
      · exact inNumber_of_mem_fractionOf h
      · exact inNumber_of_mem_exponentOf h
    · split at h
      · split at h
        · refine .inr (.inl ?_)
          simp only [pointNumberOf, List.mem_append, List.cons_append, List.mem_cons] at h
          rcases h with rfl | h | h
          · rfl
          · exact inNumber_of_mem_takeWhile h
          · exact inNumber_of_mem_exponentOf h
        · rename_i hdigit hdot hnext
          rw [List.mem_singleton.mp h]
          exact .inl (by simp [hdot, hnext])
      · split at h
        · exact .inr (.inr (List.mem_takeWhile_imp h))
        · rename_i hdigit hdot hname
          rw [List.mem_singleton.mp h]
          exact .inl (by simp [hdigit, hdot, hname])

end Lexer

/-- A character that ends whatever token stands before it: it is in no number and in no name. -/
def Lexer.EndsToken (c : Char) : Prop := inNumber c = false ∧ continuesName c = false

/-- A character that is a token of its own wherever it stands. -/
def Lexer.Solitary (c : Char) : Prop := EndsToken c ∧ Text.isBlank c = false

instance (c : Char) : Decidable (EndsToken c) :=
  inferInstanceAs (Decidable (inNumber c = false ∧ continuesName c = false))

instance (c : Char) : Decidable (Solitary c) :=
  inferInstanceAs (Decidable (EndsToken c ∧ _))

section Solitary

variable {c : Char}

/-- A lexeme is such a character just as often as the character stands in it. -/
theorem count_lexeme (hc : Solitary c) (cs : List Char) (pos : Nat) :
    (lexeme cs).2.count c = [Token.mk (lexeme cs).1 (String.ofList (lexeme cs).2) pos].countP
      (·.isSymbol (String.ofList [c])) := by
  obtain ⟨⟨hnumber, hname⟩, -⟩ := hc
  by_cases hmem : c ∈ (lexeme cs).2
  · rcases mem_lexeme hmem with h | h | h
    · rw [h]
      simp [Token.isSymbol]
    · rw [hnumber] at h
      cases h
    · rw [hname] at h
      cases h
  · have hsymbol : String.ofList (lexeme cs).2 ≠ String.ofList [c] := by
      intro h
      have hlist : (lexeme cs).2 = [c] := String.ofList_injective h
      exact hmem (hlist ▸ List.mem_singleton_self c)
    rw [List.count_eq_zero.mpr hmem, List.countP_singleton, Token.isSymbol,
      decide_eq_false hsymbol, Bool.and_false]
    rfl

theorem count_blanks (hc : Solitary c) {cs : List Char}
    (h : ∀ d ∈ cs, Text.isBlank d = true) : cs.count c = 0 := by
  rw [List.count_eq_zero]
  intro hmem
  have hblank := h c hmem
  rw [hc.2] at hblank
  cases hblank

theorem Lexer.Run.count_eq (hc : Solitary c) {r r' : Reader} {ts : List Token} (h : Run r ts r') :
    r.toList.count c =
      ts.countP (·.isSymbol (String.ofList [c])) + r'.toList.count c := by
  induction h with
  | nil r => simp
  | @cons r r' ts _ _ ih =>
    obtain ⟨ht, hp⟩ := token_spec r
    have hblanks : ∀ d ∈ r.toList.takeWhile Text.isBlank, Text.isBlank d = true :=
      fun d hd => List.mem_takeWhile_imp hd
    have hcons : ([(token r).1] ++ ts).countP (·.isSymbol (String.ofList [c])) = _ :=
      List.countP_append
    rw [List.singleton_append] at hcons
    rw [hp.1, List.count_append, List.count_append, count_blanks hc hblanks, Nat.zero_add, ih,
      hcons, ht, ← count_lexeme hc, Nat.add_assoc]

/-- A text has as many tokens of such a character as it has the character. -/
theorem count_tokens (hc : Solitary c) (s : Source) :
    (Lexer.tokens s).1.countP (·.isSymbol (String.ofList [c])) = s.pieces.flatten.count c := by
  obtain ⟨ts, r', hrun, heof, -⟩ := exists_run (.ofSource s)
  have hcount := hrun.count_eq hc
  rw [count_blanks hc (kind_token_eq_eof.mp heof)] at hcount
  rw [tokens_of_run hrun heof, ← Reader.toList_ofSource, hcount]
  rfl

end Solitary

/-- A text opens as many groups as it has opening parentheses. -/
theorem groupsOf_tokens (s : Source) :
    groupsOf (Lexer.tokens s).1 = s.pieces.flatten.count '(' :=
  count_tokens (by decide) s

end Calculator
