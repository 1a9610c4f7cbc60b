import Calculator.Proofs.EagerMode
import Calculator.Proofs.Substitution
import Calculator.Proofs.ViablePrefix
import Mathlib.Data.List.Forall2

/-!
# Spacing

Blanks divide words and mean nothing else. Take the words of a text and put them down again with any
blanks before, between and behind them: the lexer reads the same words, since a blank ends every
token, and the descent comes to the same end over them, since it looks at words and never at where
they stand.

A `Spacing` is the choice of the blanks. The second half is a statement about two runs of the
descent, over tokens that correspond one to one. `Cursor.Beside` says that two cursors stand at the
same token, and `Descent.besideAt` that every rule, at every budget, leads from such cursors to such
cursors or to failures that differ only in offsets.
-/

namespace Calculator

open Lexer

/-! ## Words spaced anew -/

/-- Blanks to put around the words of tokens: some in front, and some behind each word, without
which only the last one may be. -/
structure Spacing (ts : List Token) where
  first : List Char
  behind : List (List Char)
  length_behind : behind.length = ts.length
  blank : ∀ gap ∈ first :: behind, ∀ c ∈ gap, Text.isBlank c = true
  divided : ∀ gap ∈ behind.dropLast, gap ≠ []

namespace Spacing

variable {t : Token} {ts : List Token}

/-- The words with these blanks around them. -/
def text (spacing : Spacing ts) : List Char :=
  spacing.first ++ (List.zipWith (fun t gap => t.text.toList ++ gap) ts spacing.behind).flatten

theorem isBlank_first (spacing : Spacing ts) : ∀ c ∈ spacing.first, Text.isBlank c = true :=
  spacing.blank _ List.mem_cons_self

/-- Without words there are only blanks. -/
theorem text_nil (spacing : Spacing []) : spacing.text = spacing.first := by
  simp [text]

/-- Behind the first word the others follow, spaced in the same way; and whatever stood behind that
word, what follows it now may stand there in its place. -/
theorem exists_text_cons (spacing : Spacing (t :: ts)) :
    ∃ more : Spacing ts, spacing.text = spacing.first ++ (t.text.toList ++ more.text) ∧
      ∀ rest, Replaces rest more.text := by
  obtain ⟨first, behind, hlength, hblank, hdivided⟩ := spacing
  obtain ⟨gap, gaps, rfl⟩ : ∃ gap gaps, behind = gap :: gaps := by
    cases behind with
    | nil => cases hlength
    | cons gap gaps => exact ⟨gap, gaps, rfl⟩
  have hgap : ∀ c ∈ gap, Text.isBlank c = true := hblank gap (by simp)
  have hlength : gaps.length = ts.length := Nat.succ.inj hlength
  have hmore : ∀ w ∈ gaps.dropLast, w ≠ [] := by
    intro w hw
    have hne : gaps ≠ [] := fun h => by simp [h] at hw
    exact hdivided w (by simp [List.dropLast_cons_of_ne_nil hne, hw])
  refine ⟨⟨gap, gaps, hlength, fun w hw => hblank w (List.mem_cons_of_mem _ hw), hmore⟩,
    by simp [text], ?_⟩
  intro rest
  cases gap with
  | cons c gap => exact .of_endsToken (endsToken_of_isBlank (hgap c List.mem_cons_self)) rest _
  | nil =>
    -- only the last word has no blank behind it
    have hlast : gaps = [] := by
      by_contra hne
      exact hdivided [] (by simp [List.dropLast_cons_of_ne_nil hne]) rfl
    subst hlast
    intro c hc
    simp [text] at hc

end Spacing

namespace Lexer

/-- **Spaced words are read as the same words**, up to the end of the text. -/
theorem Run.exists_spaced {r r' q : Reader} {ts : List Token} (h : Run r ts r')
    (spacing : Spacing ts) (hq : q.toList = spacing.text) :
    ∃ us q', Run q us q' ∧ (token q').1.kind = .eof ∧ us.map Token.word = ts.map Token.word := by
  induction h generalizing q with
  | nil r =>
    rw [spacing.text_nil] at hq
    exact ⟨[], q, .nil q, kind_token_eq_eof.mpr (hq ▸ spacing.isBlank_first), rfl⟩
  | @cons r r' ts hk h ih =>
    obtain ⟨more, htext, hreplaces⟩ := spacing.exists_text_cons
    rw [htext] at hq
    obtain ⟨u, q₁, hfirst, hq₁, hword⟩ := run_word hk spacing.isBlank_first (hreplaces _) hq
    obtain ⟨us, q', hrun, heof, hwords⟩ := ih more hq₁
    refine ⟨u :: us, q', hfirst.append hrun, heof, ?_⟩
    rw [List.map_cons, List.map_cons, hword, hwords]

theorem words_of_spaced {s s' : Source} (spacing : Spacing (tokens s).1)
    (h : s'.pieces.flatten = spacing.text) :
    (tokens s').1.map Token.word = (tokens s).1.map Token.word := by
  obtain ⟨ts, r, hrun, heof, -⟩ := exists_run (.ofSource s)
  have htokens := tokens_of_run hrun heof
  generalize tokens s = p at *
  subst htokens
  rw [← Reader.toList_ofSource] at h
  obtain ⟨us, q, hrun', heof', hwords⟩ := hrun.exists_spaced spacing h
  rw [tokens_of_run hrun' heof']
  exact hwords

end Lexer

/-! ## Failures that differ in offsets only -/

/-- Two results that are both values or both errors, each with its own relation between them. -/
inductive Matching {ε α : Type} (E : ε → ε → Prop) (Q : α → α → Prop) :
    Except ε α → Except ε α → Prop where
  | ok {x x' : α} (h : Q x x') : Matching E Q (.ok x) (.ok x')
  | error {e e' : ε} (h : E e e') : Matching E Q (.error e) (.error e')

section Alike

variable (R : Token → Token → Prop)

/-- Failures of one kind, with one message and trails of one length. Where the text is at fault, the
one is found at a token and the other at the token that corresponds to it. -/
structure Failure.Alike (f f' : Failure) : Prop where
  kind : f.kind = f'.kind
  message : f.cause.message = f'.cause.message
  trail : f.trail.length = f'.trail.length
  pos : f.kind = .divisionByZero ∧ f.pos = none ∧ f'.pos = none ∨
    (f.kind = .lexical ∨ f.kind = .grammar) ∧
      ∃ t t', R t t' ∧ f.pos = some (t.pos : Int) ∧ f'.pos = some (t'.pos : Int)

/-- Both descents came too deep, or failed alike. -/
inductive Stop.Alike : Stop → Stop → Prop where
  | tooDeep : Stop.Alike .tooDeep .tooDeep
  | failed {f f' : Failure} {t t' : Token} (h : f.Alike R f') :
      Stop.Alike (.failed f t) (.failed f' t')

/-- Both texts are nested too deeply, or have failures that are alike. -/
inductive ParseFault.Alike : ParseFault → ParseFault → Prop where
  | tooDeep : ParseFault.Alike .tooDeep .tooDeep
  | failed {f f' : Failure} (h : f.Alike R f') : ParseFault.Alike (.failed f) (.failed f')

/-- Two cursors stand at tokens that correspond, and so do the tokens behind them. -/
structure Cursor.Beside (c c' : Cursor) : Prop where
  rest : List.Forall₂ R c.rest c'.rest
  finish : R (.finish c.finish) (.finish c'.finish)

/-- What a builder makes of a construct is the same whatever token follows; only the crumb of a
failure names that token. -/
structure Builder.Placeless {α : Type} (b : Builder α) : Prop where
  unary : ∀ t t' sign x, Matching (Failure.Alike R) (· = ·) (b.unary t sign x) (b.unary t' sign x)
  binary : ∀ t t' op x y,
    Matching (Failure.Alike R) (· = ·) (b.binary t op x y) (b.binary t' op x y)

end Alike

section Alike

variable {R : Token → Token → Prop}

theorem Failure.Alike.note {f f' : Failure} (h : f.Alike R f') (crumb crumb' : Crumb) :
    (f.note crumb).Alike R (f'.note crumb') where
  kind := h.kind
  message := h.message
  trail := congrArg Nat.succ h.trail
  pos := h.pos

/-- A failure that is found at a token, and its like at the token that corresponds. -/
theorem Failure.alike_atPos {t t' : Token} (h : R t t') {cause cause' : Cause}
    (hkind : cause.kind = cause'.kind) (hfault : cause.kind = .lexical ∨ cause.kind = .grammar)
    (hmessage : cause.message = cause'.message) :
    (Failure.atPos cause t.pos).Alike R (.atPos cause' t'.pos) where
  kind := hkind
  message := hmessage
  trail := rfl
  pos := .inr ⟨hfault, t, t', h, rfl, rfl⟩

theorem Stop.Alike.toParseFault {stop stop' : Stop} (h : stop.Alike R stop') :
    stop.toParseFault.Alike R stop'.toParseFault := by
  cases h with
  | tooDeep => exact .tooDeep
  | failed h => exact .failed h

namespace Cursor.Beside

variable {c c' : Cursor}

theorem current (h : c.Beside R c') : R c.current c'.current := by
  obtain ⟨rest, finish⟩ := c
  obtain ⟨rest', finish'⟩ := c'
  cases h.rest with
  | nil => exact h.finish
  | cons ht _ => exact ht

theorem advance (h : c.Beside R c') : c.advance.Beside R c'.advance := by
  obtain ⟨rest, finish⟩ := c
  obtain ⟨rest', finish'⟩ := c'
  refine ⟨?_, h.finish⟩
  cases h.rest with
  | nil => exact .nil
  | cons _ hrest => exact hrest

theorem atEnd (h : c.Beside R c') : c.atEnd = c'.atEnd := by
  obtain ⟨rest, finish⟩ := c
  obtain ⟨rest', finish'⟩ := c'
  cases h.rest with
  | nil => rfl
  | cons _ _ => rfl

end Cursor.Beside

theorem Builder.placeless_tree : Builder.Placeless R .tree where
  unary _ _ _ _ := .ok rfl
  binary _ _ _ _ _ := .ok rfl

/-- The node that has no value is shown with the token behind it, which adds one crumb whatever the
token is. -/
theorem Builder.placeless_eager (ops : Arithmetic) : Builder.Placeless R (.eager ops) where
  unary _ _ _ _ := .ok rfl
  binary t t' op x y := by
    simp only [Builder.eager]
    cases ha : op.apply ops x y with
    | ok z => exact .ok rfl
    | error cause =>
      obtain rfl := Descent.cause_of_apply_error ha
      exact .error ⟨rfl, rfl, rfl, .inl ⟨rfl, rfl, rfl⟩⟩

end Alike

/-! ## What the descent sees of a token -/

namespace Token

variable {t t' : Token}

theorem sign?_of_word (h : t.word = t'.word) : t.sign? = t'.sign? := by
  obtain ⟨hkind, htext⟩ := Prod.mk.inj h
  rw [sign?, sign?, hkind, htext]

theorem operator?_of_word (h : t.word = t'.word) : t.operator? = t'.operator? := by
  obtain ⟨hkind, htext⟩ := Prod.mk.inj h
  rw [operator?, operator?, hkind, htext]

theorem priority_of_word (h : t.word = t'.word) : t.priority = t'.priority := by
  rw [priority, priority, operator?_of_word h]

theorem describe_of_word (h : t.word = t'.word) : t.describe = t'.describe := by
  obtain ⟨hkind, htext⟩ := Prod.mk.inj h
  rw [describe, describe, hkind, htext]

end Token

theorem Cause.message_unexpected {t t' : Token} (h : t.word = t'.word) :
    (Cause.unexpected t).message = (Cause.unexpected t').message :=
  congrArg ("unexpected " ++ ·) (Token.describe_of_word h)

theorem Cause.message_unclosed {t t' : Token} (h : t.word = t'.word) :
    (Cause.unclosed t).message = (Cause.unclosed t').message :=
  congrArg ("got " ++ · ++ ", want ')'") (Token.describe_of_word h)

/-! ## Two runs of the descent -/

namespace Descent

section Runs

variable {R : Token → Token → Prop} {α : Type} {b : Builder α}

/-- Two steps built the same and stand beside one another, or stopped alike. -/
def Beside (R : Token → Token → Prop) : Step α → Step α → Prop :=
  Matching (Stop.Alike R) fun p p' => p.1 = p'.1 ∧ p.2.Beside R p'.2

theorem beside_ok {x : α} {c c' : Cursor} (h : c.Beside R c') :
    Beside R (.ok (x, c)) (.ok (x, c')) := .ok ⟨rfl, h⟩

theorem noting_matching {β : Type} {Q : β → β → Prop} {r r' : Except Stop β}
    (h : Matching (Stop.Alike R) Q r r') (crumb crumb' : Token → Crumb) :
    Matching (Stop.Alike R) Q (noting crumb r) (noting crumb' r') := by
  cases h with
  | ok h => exact .ok h
  | error h =>
    cases h with
    | tooDeep => exact .error .tooDeep
    | failed h => exact .error (.failed (h.note _ _))

/-- **One step of both runs**: where both go on, they go on alike. -/
theorem Beside.andThen {β : Type} {Q : β → β → Prop} {r r' : Step α} (h : Beside R r r')
    {next next' : α → Cursor → Except Stop β}
    (hnext : ∀ x c c', c.Beside R c' → Matching (Stop.Alike R) Q (next x c) (next' x c')) :
    Matching (Stop.Alike R) Q (andThen r next) (andThen r' next') := by
  cases h with
  | error h => exact .error h
  | @ok p p' h =>
    obtain ⟨x, c⟩ := p
    obtain ⟨x', c'⟩ := p'
    obtain ⟨rfl, hc⟩ := h
    exact hnext x c c' hc

theorem built_beside {c c' : Cursor} (h : c.Beside R c') {r r' : Except Failure α}
    (hr : Matching (Failure.Alike R) (· = ·) r r') : Beside R (built c r) (built c' r') := by
  cases hr with
  | ok hx => exact .ok ⟨hx, h⟩
  | error hf => exact .error (.failed hf)

/-- Two steps stop alike at tokens that correspond. -/
theorem failed_beside {β : Type} {Q : β → β → Prop} {t t' : Token} (h : R t t')
    {cause cause' : Cause} (hkind : cause.kind = cause'.kind)
    (hfault : cause.kind = .lexical ∨ cause.kind = .grammar)
    (hmessage : cause.message = cause'.message) :
    Matching (Stop.Alike R) Q (.error (.failed (.atPos cause t.pos) t))
      (.error (.failed (.atPos cause' t'.pos) t')) :=
  .error (.failed (Failure.alike_atPos h hkind hfault hmessage))

variable (hR : ∀ t t', R t t' → t.word = t'.word)

include hR

theorem unexpected_beside {β : Type} {Q : β → β → Prop} {t t' : Token} (h : R t t') :
    Matching (Stop.Alike R) Q (.error (.failed (.atPos (.unexpected t) t.pos) t))
      (.error (.failed (.atPos (.unexpected t') t'.pos) t')) :=
  failed_beside h rfl (.inr rfl) (Cause.message_unexpected (hR t t' h))

variable (hb : b.Placeless R)

include hb

/-- The operators of one strength. The tokens that bound the two loops are equally many. -/
theorem gather_beside {right : Cursor → Step α}
    (hright : ∀ c c', c.Beside R c' → Beside R (right c) (right c')) {strength : Nat}
    {links links' : List Token} (hlinks : List.Forall₂ R links links') (left : α)
    {c c' : Cursor} (h : c.Beside R c') :
    Beside R (gather b right strength links left c) (gather b right strength links' left c') := by
  induction hlinks generalizing left c c' with
  | nil => exact beside_ok h
  | cons _ _ ih =>
    simp only [gather]
    rw [Token.operator?_of_word (hR _ _ h.current)]
    cases c'.current.operator? with
    | none => exact beside_ok h
    | some op =>
      by_cases hp : op.priority = strength
      · simp only [hp, if_true]
        refine Beside.andThen (noting_matching (hright _ _ h.advance) _ _) ?_
        intro x c₁ c₁' h₁
        refine (built_beside h₁ (hb.binary _ _ op left x)).andThen ?_
        intro y c₂ c₂' h₂
        exact ih y h₂
      · simp only [hp, if_false]
        exact beside_ok h

/-- All operators down to the lowest strength. -/
theorem levels_beside {right : Nat → Cursor → Step α}
    (hright : ∀ p c c', c.Beside R c' → Beside R (right p c) (right p c')) {lowest : Nat}
    (strength : Nat) (left : α) {c c' : Cursor} (h : c.Beside R c') :
    Beside R (levels b right lowest strength left c) (levels b right lowest strength left c') := by
  induction strength generalizing left c c' with
  | zero => exact beside_ok h
  | succ strength ih =>
    simp only [levels]
    split
    · exact beside_ok h
    · refine (gather_beside hR hb (hright (strength + 2)) h.rest left h).andThen ?_
      intro x c₁ c₁' h₁
      exact ih x h₁

omit hR hb

/-- From cursors beside one another, every rule comes to such cursors or stops alike. -/
structure BesideAt (R : Token → Token → Prop) (b : Builder α) (n : Nat) : Prop where
  expression : ∀ c c', c.Beside R c' → Beside R (expression b n c) (expression b n c')
  chain : ∀ lowest c c', c.Beside R c' → Beside R (chain b n lowest c) (chain b n lowest c')
  signed : ∀ c c', c.Beside R c' → Beside R (signed b n c) (signed b n c')
  primary : ∀ c c', c.Beside R c' → Beside R (primary b n c) (primary b n c')

include hR hb

theorem BesideAt.chain_succ {n : Nat} (h : BesideAt R b n) (lowest : Nat) (c c' : Cursor)
    (hc : c.Beside R c') :
    Beside R (Descent.chain b (n + 1) lowest c) (Descent.chain b (n + 1) lowest c') := by
  simp only [Descent.chain]
  refine Beside.andThen (noting_matching (h.signed c c' hc) _ _) ?_
  intro x c₁ c₁' h₁
  rw [Token.priority_of_word (hR _ _ h₁.current)]
  exact levels_beside hR hb h.chain _ x h₁

theorem BesideAt.signed_succ {n : Nat} (h : BesideAt R b n) (c c' : Cursor)
    (hc : c.Beside R c') :
    Beside R (Descent.signed b (n + 1) c) (Descent.signed b (n + 1) c') := by
  simp only [Descent.signed]
  rw [Token.sign?_of_word (hR _ _ hc.current)]
  cases c'.current.sign? with
  | none => exact h.primary c c' hc
  | some sign =>
    refine Beside.andThen (noting_matching (h.signed _ _ hc.advance) _ _) ?_
    intro x c₁ c₁' h₁
    exact built_beside h₁ (hb.unary _ _ sign x)

omit hb in
theorem BesideAt.primary_succ {n : Nat} (h : BesideAt R b n) (c c' : Cursor)
    (hc : c.Beside R c') :
    Beside R (Descent.primary b (n + 1) c) (Descent.primary b (n + 1) c') := by
  have hword := hR _ _ hc.current
  obtain ⟨-, htext⟩ := Prod.mk.inj hword
  simp only [Descent.primary]
  rw [Token.isNumber_of_word hword, Token.isSymbol_of_word hword, htext]
  split
  · cases hx : numberValue c'.current.text with
    | error cause => exact failed_beside hc.current rfl (.inl (Partial.kind_of_numberValue hx)) rfl
    | ok x => exact beside_ok hc.advance
  · split
    · refine Beside.andThen (noting_matching (h.expression _ _ hc.advance) _ _) ?_
      intro x c₁ c₁' h₁
      have hword₁ := hR _ _ h₁.current
      rw [Token.isSymbol_of_word hword₁]
      split
      · exact beside_ok h₁.advance
      · exact failed_beside h₁.current rfl (.inr rfl) (Cause.message_unclosed hword₁)
    · exact unexpected_beside hR hc.current

theorem besideAt (n : Nat) : BesideAt R b n := by
  induction n with
  | zero =>
    exact ⟨fun _ _ _ => .error .tooDeep, fun _ _ _ _ => .error .tooDeep,
      fun _ _ _ => .error .tooDeep, fun _ _ _ => .error .tooDeep⟩
  | succ n ih =>
    exact ⟨ih.chain 1, ih.chain_succ hR hb, ih.signed_succ hR hb, ih.primary_succ hR⟩

/-- **The descent does not see where tokens stand**: over tokens that correspond it builds the same,
or stops alike. -/
theorem wholeText_matching {c c' : Cursor} (h : c.Beside R c') :
    Matching (Stop.Alike R) (· = ·) (wholeText b c) (wholeText b c') := by
  simp only [wholeText]
  refine Beside.andThen (noting_matching ((besideAt hR hb budget).expression c c' h) _ _) ?_
  intro x c₁ c₁' h₁
  rw [h₁.atEnd]
  split
  · exact .ok rfl
  · exact unexpected_beside hR h₁.current

end Runs

end Descent

/-! ## Tokens at the same place -/

namespace Lexer

/-- The tokens of a source with the end of the text behind them. -/
def tokensToEnd (s : Source) : List Token := (tokens s).1 ++ [.finish (tokens s).2]

/-- Tokens of two sources that stand at the same place in the order of their tokens. -/
def Corresponding (s s' : Source) (t t' : Token) : Prop :=
  ∃ i : Nat, (tokensToEnd s)[i]? = some t ∧ (tokensToEnd s')[i]? = some t'

variable {s s' : Source}

theorem tokensToEnd_getElem? {i : Nat} (h : i < (tokens s).1.length) :
    (tokensToEnd s)[i]? = some ((tokens s).1.get ⟨i, h⟩) := by
  rw [tokensToEnd, List.getElem?_append_left h]
  exact List.getElem?_eq_getElem h

theorem Corresponding.word_eq (h : (tokens s').1.map Token.word = (tokens s).1.map Token.word)
    {t t' : Token} (ht : Corresponding s s' t t') : t.word = t'.word := by
  obtain ⟨i, hi, hi'⟩ := ht
  have hwords : (tokensToEnd s').map Token.word = (tokensToEnd s).map Token.word := by
    rw [tokensToEnd, tokensToEnd, List.map_append, List.map_append, h]
    rfl
  have hat := congrArg (·[i]?) hwords
  simp only [List.getElem?_map, hi, hi', Option.map_some, Option.some.injEq] at hat
  exact hat.symm

/-- The cursors at the beginning of both sources stand beside one another. -/
theorem beside_ofSource (h : (tokens s').1.map Token.word = (tokens s).1.map Token.word) :
    (Cursor.ofSource s).Beside (Corresponding s s') (.ofSource s') := by
  have hlength : (tokens s).1.length = (tokens s').1.length := by
    simpa using (congrArg List.length h).symm
  refine ⟨?_, (tokens s).1.length, ?_, ?_⟩
  · refine List.forall₂_iff_get.mpr ⟨hlength, ?_⟩
    intro i hi hi'
    exact ⟨i, tokensToEnd_getElem? hi, tokensToEnd_getElem? hi'⟩
  · simp [tokensToEnd, Cursor.ofSource]
  · simp [tokensToEnd, Cursor.ofSource, hlength]

end Lexer

/-- **Spacing is irrelevant.** Put the words of a text down again with any blanks before, between
and behind them. They are read as the same words. Both ways of parsing give the same tree and the
same number as before, or fail as before: of one kind, with one message and a trail of one length,
and a fault of the text is found at the token that corresponds. -/
theorem parse_spaced (s s' : Source) (spacing : Spacing (Lexer.tokens s).1)
    (h : s'.pieces.flatten = spacing.text) :
    (Lexer.tokens s').1.map Token.word = (Lexer.tokens s).1.map Token.word ∧
    Matching (ParseFault.Alike (Corresponding s s')) (· = ·) (parse s) (parse s') ∧
    ∀ ops, Matching (ParseFault.Alike (Corresponding s s')) (· = ·)
      (parseEagerly ops s) (parseEagerly ops s') := by
  have hwords := words_of_spaced spacing h
  have hword : ∀ t t', Corresponding s s' t t' → t.word = t'.word :=
    fun t t' ht => ht.word_eq hwords
  have hbeside := beside_ofSource hwords
  refine ⟨hwords, ?_, fun ops => ?_⟩
  · have htrees := Descent.wholeText_matching hword Builder.placeless_tree hbeside
    simp only [parse]
    generalize Descent.wholeText .tree (.ofSource s) = r at htrees ⊢
    generalize Descent.wholeText .tree (.ofSource s') = r' at htrees ⊢
    cases htrees with
    | ok he => exact .ok he
    | error hstop => exact .error hstop.toParseFault
  · have hvalues := Descent.wholeText_matching hword (Builder.placeless_eager ops) hbeside
    simp only [parseEagerly]
    generalize Descent.wholeText (.eager ops) (.ofSource s) = r at hvalues ⊢
    generalize Descent.wholeText (.eager ops) (.ofSource s') = r' at hvalues ⊢
    cases hvalues with
    | ok hx => exact .ok (congrArg Expr.literal hx)
    | error hstop => exact .error hstop.toParseFault

/-- In `(1.5e+.5` a group is open, a number has an exponent without digits, and the next number
follows at once. With blanks around them the three words are the same, and so is the failure. -/
theorem parse_spaced_open_exponent :
    (Lexer.tokens (.text "\t( 1.5e+ \n.5".toList)).1.map Token.word =
        [(.symbol, "("), (.decimal, "1.5e+"), (.decimal, ".5")] ∧
      Matching (ParseFault.Alike
          (Corresponding (.text "(1.5e+.5".toList) (.text "\t( 1.5e+ \n.5".toList))) (· = ·)
        (parse (.text "(1.5e+.5".toList)) (parse (.text "\t( 1.5e+ \n.5".toList)) := by
  have hblank : ∀ gap ∈ ['\t'] :: [[' '], [' ', '\n'], []], gap.all Text.isBlank = true := by
    decide +kernel
  have hspaced := parse_spaced (.text "(1.5e+.5".toList) (.text "\t( 1.5e+ \n.5".toList)
    ⟨['\t'], [[' '], [' ', '\n'], []], by decide +kernel,
      fun gap hgap => List.all_eq_true.mp (hblank gap hgap), by decide +kernel⟩ rfl
  refine ⟨hspaced.1.trans ?_, hspaced.2.1⟩
  decide +kernel

end Calculator
