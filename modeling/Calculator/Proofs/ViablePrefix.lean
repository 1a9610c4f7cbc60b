import Calculator.Proofs.OpenConstructs

/-!
# Failures stand at the first offending token

Tokens are viable if the tokens of some expression begin with them. Read from the left, tokens that
lead to a partial expression are viable, whatever it is: a number, where an operand must follow, and
the ends of all open groups complete it. A token that leads nowhere is offending: since reading from
the left accepts the grammar and nothing else, no expression goes on with it.

So every failure of the parser stands at the first token up to which the text is no longer viable,
and is settled by the tokens up to there.
-/

namespace Calculator

open Construct

/-! ## Leading from one partial expression to another -/

namespace Partial

/-- The tokens `ts` lead from `p` to `p'`, by places that are not nested too deeply. -/
inductive Reaches (limit : Nat) : Partial → List Token → Partial → Prop where
  | nil (p : Partial) : Reaches limit p [] p
  | cons {p p' p'' : Partial} {t : Token} {ts : List Token} (hd : p.exceeds limit = false)
      (hn : p.next t = some p') (h : Reaches limit p' ts p'') : Reaches limit p (t :: ts) p''

/-- A token leads nowhere, and is not the end of a complete expression. -/
structure Rejects (limit : Nat) (p : Partial) (t : Token) : Prop where
  shallow : p.exceeds limit = false
  next : p.next t = none
  incomplete : t.kind = .eof → p.complete? = none

variable {limit limit' : Nat} {p p' p'' : Partial} {t : Token} {ts us : List Token} {e : Expr}

theorem Reaches.append (h : Reaches limit p ts p') (h' : Reaches limit p' us p'') :
    Reaches limit p (ts ++ us) p'' := by
  induction h with
  | nil => exact h'
  | cons hd hn _ ih => exact .cons hd hn (ih h')

/-- A single token that leads on. -/
theorem Reaches.token (hd : p.exceeds limit = false) (hn : p.next t = some p') :
    Reaches limit p [t] p' :=
  .cons hd hn (.nil p')

theorem exceeds_mono (hle : limit ≤ limit') (h : p.exceeds limit = false) :
    p.exceeds limit' = false := by
  cases p with
  | holding e around => rfl
  | awaiting around =>
    simp only [exceeds, decide_eq_false_iff_not] at h ⊢
    omega

/-- Where more may be nested, at least the same is reached. -/
theorem Reaches.mono (hle : limit ≤ limit') (h : Reaches limit p ts p') :
    Reaches limit' p ts p' := by
  induction h with
  | nil p => exact .nil p
  | cons hd hn _ ih => exact .cons (exceeds_mono hle hd) hn ih

/-- What tokens lead to does not depend on what follows them, nor on how deep is too deep. -/
theorem Reaches.of_append (h : Reaches limit p (ts ++ us) p'') (h' : Reaches limit' p ts p') :
    Reaches limit p' us p'' := by
  induction h' with
  | nil => exact h
  | cons _ hn _ ih =>
    cases h with
    | cons _ hn' h =>
      obtain rfl := Option.some.inj (hn.symm.trans hn')
      exact ih h

theorem Reaches.read_append (h : Reaches limit p ts p') (us : List Token) (finish : Nat) :
    p.read limit (ts ++ us) finish = p'.read limit us finish := by
  induction h with
  | nil => rfl
  | cons hd hn _ ih => simp [read, hd, hn, ih]

theorem exceeds_of_complete? (h : p.complete? = some e) : p.exceeds limit = false := by
  cases p with
  | holding e around => rfl
  | awaiting around => cases h

/-- Reading comes to a tree just when the tokens lead to a partial expression that is complete. -/
theorem read_eq_ok {finish : Nat} :
    p.read limit ts finish = .ok e ↔ ∃ p', Reaches limit p ts p' ∧ p'.complete? = some e := by
  constructor
  · intro h
    induction ts generalizing p with
    | nil =>
      simp only [read] at h
      split at h
      · cases h
      · split at h
        · rename_i hc
          cases h
          exact ⟨p, .nil p, hc⟩
        · cases h
    | cons t ts ih =>
      simp only [read] at h
      split at h
      · cases h
      · rename_i hd
        split at h
        · rename_i hn
          obtain ⟨p', hr, hc⟩ := ih h
          exact ⟨p', .cons (by simpa using hd) hn hr, hc⟩
        · cases h
  · rintro ⟨p', hr, hc⟩
    have happ := hr.read_append [] finish
    rw [List.append_nil] at happ
    simp [happ, read, hc, exceeds_of_complete? hc]

/-- A failure stands at the token that is rejected behind the tokens before it. -/
theorem exists_rejects_of_read {finish : Nat} {f : Failure} (hk : ∀ t ∈ ts, t.kind ≠ .eof)
    (h : p.read limit ts finish = .error (.failed f t)) :
    ∃ before after p', ts ++ [.finish finish] = before ++ t :: after ∧
      Reaches limit p before p' ∧ p'.Rejects limit t ∧ f = p'.objection t := by
  induction ts generalizing p with
  | nil =>
    simp only [read] at h
    split at h
    · cases h
    · rename_i hd
      split at h
      · cases h
      · rename_i hc
        cases h
        exact ⟨[], [], p, rfl, .nil p, ⟨by simpa using hd, next_finish p finish, fun _ => hc⟩, rfl⟩
  | cons u ts ih =>
    simp only [read] at h
    split at h
    · cases h
    · rename_i hd
      replace hd : p.exceeds limit = false := by simpa using hd
      split at h
      · rename_i p₁ hn
        obtain ⟨before, after, p', hts, hr, hrej, hf⟩ :=
          ih (fun t ht => hk t (List.mem_cons_of_mem u ht)) h
        exact ⟨u :: before, after, p', by simp [hts], .cons hd hn hr, hrej, hf⟩
      · rename_i hn
        cases h
        have hne := hk t List.mem_cons_self
        exact ⟨[], ts ++ [.finish finish], p, rfl, .nil p, ⟨hd, hn, fun h => absurd h hne⟩, rfl⟩

/-- A token that is rejected fails whatever follows it. -/
theorem Rejects.read_eq {finish : Nat} {before after : List Token} (h : p'.Rejects limit t)
    (hr : Reaches limit p before p') (hts : ts ++ [.finish finish] = before ++ t :: after) :
    p.read limit ts finish = .error (.failed (p'.objection t) t) := by
  rcases List.eq_nil_or_concat after with rfl | ⟨after, u, rfl⟩
  · -- the token is the end
    obtain ⟨rfl, ht⟩ := List.append_inj' hts rfl
    obtain rfl : Token.finish finish = t := by simpa using ht
    have happ := hr.read_append [] finish
    rw [List.append_nil] at happ
    rw [happ, read, if_neg (by simp [h.shallow]), h.incomplete rfl]
  · obtain ⟨rfl, -⟩ : ts = before ++ t :: after ∧ [Token.finish finish] = [u] := by
      refine List.append_inj' ?_ rfl
      simpa using hts
    rw [hr.read_append, read, if_neg (by simp [h.shallow]), h.next]

end Partial

/-! ## The grammar from the left -/

open Partial

/-- **Reading from the left accepts the grammar**, if no nesting is too deep for it. -/
theorem derives_iff_reaches {ts : List Token} {e : Expr} :
    Derives .sum ts e ↔ ∃ limit p, Reaches limit start ts p ∧ p.complete? = some e := by
  constructor
  · intro h
    have hx := Descent.expression_of_derives h 0 (n := 4 * ts.length + 4) (by omega)
    have hread := (Descent.followsAt (4 * ts.length) _).expression [] ⟨ts, 0⟩ rfl (by simp)
    rw [hx] at hread
    obtain ⟨p, hr, hc⟩ := read_eq_ok.mp hread
    exact ⟨4 * ts.length, p, hr, hc⟩
  · rintro ⟨limit, p, hr, hc⟩
    have hread := (Descent.followsAt limit (limit + 4)).expression [] ⟨ts, 0⟩ rfl (by simp)
    rw [← start, read_eq_ok.mpr ⟨p, hr, hc⟩] at hread
    cases hx : Descent.expression .tree (limit + 4) ⟨ts, 0⟩ with
    | error stop =>
      rw [hx] at hread
      cases stop <;> cases hread
    | ok r =>
      obtain ⟨e', rest, finish⟩ := r
      rw [hx] at hread
      replace hread := hread.trans (Descent.read_of_expression hx)
      cases rest with
      | cons t ts => cases hread
      | nil =>
        cases hread
        obtain ⟨us, ⟨hus, -⟩, hd⟩ := (Descent.soundAt _).expression _ _ _ hx
        rw [List.append_nil] at hus
        rwa [← hus] at hd

/-- Tokens with which the tokens of an expression begin. -/
def Viable (ts : List Token) : Prop := ∃ us e, Derives .sum (ts ++ us) e

/-- Tokens with which the tokens of an expression and the end behind them begin. -/
def ViableToEnd (ts : List Token) : Prop :=
  ∃ us e finish, Derives .sum us e ∧ ts <+: us ++ [.finish finish]

/-- An operand may start behind the tokens: some number can follow them. -/
def OperandMayStart (ts : List Token) : Prop := ∃ t, t.isNumber = true ∧ Viable (ts ++ [t])

namespace Partial

/-- The end of a group. -/
def closing : Token := ⟨.symbol, ")", 0⟩

/-- A number. -/
def number : Token := ⟨.whole, "1", 0⟩

theorem length_settle_le (strength : Nat) (e : Expr) (around : List Construct) :
    (settle strength e around).2.length ≤ around.length := by
  induction around generalizing e with
  | nil => simp [settle]
  | cons k around ih =>
    rw [settle]
    split
    · exact Nat.le_succ_of_le (ih _)
    · exact Nat.le_refl _

/-- Once an operand has been read, closing all groups completes the expression. -/
theorem exists_complete_of_holding (e : Expr) (around : List Construct) :
    ∃ us p e', Reaches 0 (holding e around) us p ∧ p.complete? = some e' := by
  induction hn : around.length using Nat.strongRecOn generalizing e around with
  | _ n ih =>
    have hhead := settle_head_lt 1 e around
    have hlength := length_settle_le 1 e around
    obtain ⟨e', outer, hs⟩ : ∃ e' outer, settle 1 e around = (e', outer) := ⟨_, _, rfl⟩
    rw [hs] at hhead hlength
    cases outer with
    | nil => exact ⟨[], holding e around, e', .nil _, by simp [complete?, hs]⟩
    | cons k outer =>
      obtain ⟨offset, rfl⟩ := eq_group_of_strength_lt (hhead k rfl)
      rw [List.length_cons] at hlength
      obtain ⟨us, p, e'', hr, hc⟩ := ih outer.length (by omega) e' outer rfl
      have hnext : (holding e around).next closing = some (holding e' outer) := by
        simp [next, closing, Token.operator?, Operator.ofText?, Token.isSymbol, hs]
      exact ⟨closing :: us, p, e'', .cons rfl hnext hr, hc⟩

/-- Where an operand must follow, a number is one. -/
theorem next_number (around : List Construct) :
    ∃ x, (awaiting around).next number = some (holding (.literal x) around) := by
  have hx : Descent.numberValue "1" = .ok ⟨0x3FF0000000000000⟩ := by decide +kernel
  exact ⟨⟨0x3FF0000000000000⟩, by simp [next, number, Token.isNumber, hx]⟩

/-- Every partial expression can be completed. -/
theorem exists_complete (p : Partial) :
    ∃ limit us p' e, Reaches limit p us p' ∧ p'.complete? = some e := by
  cases p with
  | holding e around =>
    obtain ⟨us, p, e', hr, hc⟩ := exists_complete_of_holding e around
    exact ⟨0, us, p, e', hr, hc⟩
  | awaiting around =>
    obtain ⟨x, hx⟩ := next_number around
    obtain ⟨us, p, e, hr, hc⟩ := exists_complete_of_holding (.literal x) around
    refine ⟨costOfAll around, number :: us, p, e, ?_, hc⟩
    exact .cons (by simp [exceeds]) hx (hr.mono (Nat.zero_le _))

variable {limit : Nat} {p : Partial} {ts : List Token} {t : Token}

theorem Reaches.viable (h : Reaches limit start ts p) : Viable ts := by
  obtain ⟨limit', us, p', e, hr, hc⟩ := p.exists_complete
  refine ⟨us, e, derives_iff_reaches.mpr ⟨max limit limit', p', ?_, hc⟩⟩
  exact (h.mono (Nat.le_max_left _ _)).append (hr.mono (Nat.le_max_right _ _))

theorem Reaches.not_viable (h : Reaches limit start ts p) (hn : p.next t = none) :
    ¬ Viable (ts ++ [t]) := by
  rintro ⟨us, e, hd⟩
  obtain ⟨limit', p', hr, -⟩ := derives_iff_reaches.mp hd
  rw [List.append_assoc] at hr
  cases hr.of_append h with
  | cons _ hn' _ =>
    rw [hn] at hn'
    cases hn'

theorem Rejects.not_viableToEnd (h : p.Rejects limit t) (hr : Reaches limit start ts p) :
    ¬ ViableToEnd (ts ++ [t]) := by
  rintro ⟨us, e, finish, hd, after, hus⟩
  rw [List.append_assoc] at hus
  obtain ⟨limit', p', hr', hc⟩ := derives_iff_reaches.mp hd
  have hfailed := (Rejects.mk (exceeds_mono (Nat.le_max_left limit limit') h.shallow) h.next
    h.incomplete).read_eq (hr.mono (Nat.le_max_left limit limit')) hus.symm
  rw [read_eq_ok.mpr ⟨p', hr'.mono (Nat.le_max_right limit limit'), hc⟩] at hfailed
  cases hfailed

end Partial

/-! ## What a failure says -/

namespace Construct

theorem cause_escape (current : Token) (first : Bool) (around : List Construct) (f : Failure) :
    (escape current first around f).cause = f.cause := by
  induction around generalizing first f with
  | nil => cases first <;> rfl
  | cons k around ih =>
    cases k <;> simp only [escape, ih] <;> cases first <;> rfl

theorem pos_escape (current : Token) (first : Bool) (around : List Construct) (f : Failure) :
    (escape current first around f).pos = f.pos := by
  induction around generalizing first f with
  | nil => cases first <;> rfl
  | cons k around ih =>
    cases k <;> simp only [escape, ih] <;> cases first <;> rfl

end Construct

namespace Partial

theorem pos_objection (p : Partial) (t : Token) : (p.objection t).pos = some (t.pos : Int) := by
  cases p with
  | awaiting around => rw [objection, pos_escape]; rfl
  | holding e around =>
    simp only [objection]
    split
    · rw [pos_escape]; rfl
    · rfl

/-- A number without a value is a fault of the text, in whichever way. -/
theorem kind_of_numberValue {text : String} {cause : Cause}
    (h : Descent.numberValue text = .error cause) : cause.kind = .lexical := by
  simp only [Descent.numberValue] at h
  split at h
  · cases h
    rfl
  · split at h
    · cases h
      rfl
    · cases h

theorem kind_objection_holding (e : Expr) (around : List Construct) (t : Token) :
    ((holding e around).objection t).kind = .grammar := by
  simp only [objection]
  split
  · rw [Failure.kind, cause_escape]
    rfl
  · rfl

/-- Where an operand must follow, a number is rejected only for want of a value. -/
theorem kind_objection_awaiting {around : List Construct} {t : Token}
    (h : (awaiting around).next t = none) :
    (t.isNumber = true ∧ (∃ cause, Descent.numberValue t.text = .error cause) ∧
      ((awaiting around).objection t).kind = .lexical) ∨
    (t.isNumber = false ∧ ((awaiting around).objection t).kind = .grammar) := by
  simp only [objection, Failure.kind, cause_escape, Failure.atPos, misplaced]
  cases hn : t.isNumber with
  | false => exact .inr ⟨rfl, rfl⟩
  | true =>
    cases hx : Descent.numberValue t.text with
    | ok x => simp [next, hn, hx] at h
    | error cause => exact .inl ⟨rfl, ⟨cause, rfl⟩, kind_of_numberValue hx⟩

/-- No number follows an operand. -/
theorem next_holding_of_isNumber {e : Expr} {around : List Construct} {t : Token}
    (h : t.isNumber = true) : (holding e around).next t = none := by
  have hk : t.kind ≠ .symbol := by
    intro hk
    simp [Token.isNumber, hk] at h
  simp [next, Token.operator?, Token.isSymbol, hk]

variable {limit : Nat} {p : Partial} {ts : List Token} {t : Token}

/-- A rejected token is a fault of the text just when it is a number without a value that stands
where an operand may start. -/
theorem Rejects.kind_iff (h : p.Rejects limit t) (hr : Reaches limit start ts p) :
    ((p.objection t).kind = .lexical ↔ t.isNumber = true ∧
      (∃ cause, Descent.numberValue t.text = .error cause) ∧ OperandMayStart ts) ∧
    ((p.objection t).kind = .lexical ∨ (p.objection t).kind = .grammar) := by
  cases p with
  | holding e around =>
    rw [kind_objection_holding]
    refine ⟨⟨by simp, ?_⟩, .inr rfl⟩
    rintro ⟨-, -, u, hu, hviable⟩
    exact absurd hviable (hr.not_viable (next_holding_of_isNumber hu))
  | awaiting around =>
    obtain ⟨x, hx⟩ := next_number around
    have hstart : OperandMayStart ts :=
      ⟨number, rfl, (hr.append (.token h.shallow hx)).viable⟩
    rcases kind_objection_awaiting h.next with ⟨hn, hc, hk⟩ | ⟨hn, hk⟩
    · rw [hk]
      exact ⟨⟨fun _ => ⟨hn, hc, hstart⟩, fun _ => rfl⟩, .inl rfl⟩
    · rw [hk, hn]
      exact ⟨by simp, .inr rfl⟩

end Partial

/-- The parser reads its tokens from the left. -/
theorem parse_eq_read (s : Source) :
    parse s = (start.read Descent.nestingLimit (Lexer.tokens s).1 (Lexer.tokens s).2).mapError
      Stop.toParseFault := by
  rw [parse, Descent.wholeText_eq_read]
  rfl

theorem parse_eq_failed {s : Source} {f : Failure} :
    parse s = .error (.failed f) ↔
      ∃ t, start.read Descent.nestingLimit (Lexer.tokens s).1 (Lexer.tokens s).2 =
        .error (.failed f t) := by
  rw [parse_eq_read]
  cases start.read Descent.nestingLimit (Lexer.tokens s).1 (Lexer.tokens s).2 with
  | ok e => simp [Except.mapError]
  | error stop => cases stop <;> simp [Except.mapError, Stop.toParseFault]

/-- **Failures stand at the first offending token.** If a text is rejected, and not for its depth,
then at one of its tokens, the end counted: the tokens before it are viable, and with it they are
not. The failure is one of the text itself just when the token is a number without a value that
stands where an operand may start, and one of grammar otherwise; and every text with the same tokens
up to that one is rejected with the same failure. -/
theorem parse_fails_at_first_offence (s : Source) (f : Failure)
    (h : parse s = .error (.failed f)) :
    ∃ ts finish before t after, Lexer.Reads s ts finish ∧
      ts ++ [.finish finish] = before ++ t :: after ∧ f.pos = some (t.pos : Int) ∧
      Viable before ∧ ¬ ViableToEnd (before ++ [t]) ∧
      (f.kind = .lexical ↔ t.isNumber = true ∧
        (∃ cause, Descent.numberValue t.text = .error cause) ∧ OperandMayStart before) ∧
      (f.kind = .lexical ∨ f.kind = .grammar) ∧
      ∀ s' ts' finish' after', Lexer.Reads s' ts' finish' →
        ts' ++ [.finish finish'] = before ++ t :: after' → parse s' = .error (.failed f) := by
  obtain ⟨t, hread⟩ := parse_eq_failed.mp h
  have hreads := Lexer.reads_tokens s
  obtain ⟨before, after, p, hts, hr, hrej, rfl⟩ := exists_rejects_of_read hreads.1 hread
  obtain ⟨hkind, hor⟩ := hrej.kind_iff hr
  refine ⟨_, _, before, t, after, hreads, hts, p.pos_objection t, hr.viable,
    hrej.not_viableToEnd hr, hkind, hor, ?_⟩
  intro s' ts' finish' after' hreads' hts'
  rw [Lexer.reads_iff] at hreads'
  rw [parse_eq_failed, hreads']
  exact ⟨t, hrej.read_eq hr hts'⟩

/-- `1+(2 3` is rejected at its second number inside the group: the group could have been closed or
gone on, but not with that number. -/
theorem parse_fails_at_second_number :
    parse (.text ['1', '+', '(', '2', ' ', '3']) =
      .error (.failed ⟨.unclosed ⟨.whole, "3", 5⟩, some 5, [.wholeText ⟨.whole, "3", 5⟩,
        .rightOperand .add ⟨.whole, "3", 5⟩, .firstOperand ⟨.whole, "3", 5⟩]⟩) ∧
    ∃ before t, Viable before ∧ ¬ ViableToEnd (before ++ [t]) ∧ t.pos = 5 := by
  have hparse : parse (.text ['1', '+', '(', '2', ' ', '3']) =
      .error (.failed ⟨.unclosed ⟨.whole, "3", 5⟩, some 5, [.wholeText ⟨.whole, "3", 5⟩,
        .rightOperand .add ⟨.whole, "3", 5⟩, .firstOperand ⟨.whole, "3", 5⟩]⟩) := by decide +kernel
  obtain ⟨-, -, before, t, -, -, -, hpos, hviable, hnot, -⟩ :=
    parse_fails_at_first_offence _ _ hparse
  refine ⟨hparse, before, t, hviable, hnot, ?_⟩
  have hcast : (5 : Int) = t.pos := Option.some.inj hpos
  omega

end Calculator
