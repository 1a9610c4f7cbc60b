import Calculator.Proofs.EagerMode
import Calculator.Proofs.Waiting

/-!
# Depth follows nesting

How many rules of the descent are open where an operand starts is settled by what waits there: four
for each group, one for each operator and for each sign. Operands that are finished cost nothing, so
a text of any length is read as long as nothing in it is nested too deeply; and where something is,
reading stops there, whatever follows. Of the texts that are not nested too deeply, the parser accepts
exactly those that the grammar derives.
-/

namespace Calculator

open Construct Partial

/-- The cost of an operand behind the tokens: four for each group that is open there, and one for
each operator and each sign that waits. -/
def nestingCost (ts : List Token) : Nat :=
  4 * countOf .group (waiting ts) + countOf .operator (waiting ts) + countOf .sign (waiting ts)

/-- The rules that are open for constructs are counted by what waits. -/
theorem Tracks.costOfAll_eq {n : Nat} {around : List Construct} {ws : List Waiting}
    (h : Tracks n around ws) :
    costOfAll around = 4 * countOf .group ws + countOf .operator ws + countOf .sign ws := by
  induction h with
  | nil => rfl
  | signed sign t _ ih =>
    simp [cost, ih]
    omega
  | joined left ht hhead _ ih =>
    simp [cost, ih]
    omega
  | group t _ ih =>
    simp [cost, ih]
    omega

namespace Partial

variable {limit limit' : Nat} {p p' p'' : Partial} {ts us : List Token} {around : List Construct}

theorem Reaches.costOfAll_eq (h : Reaches limit start ts (awaiting around)) :
    costOfAll around = nestingCost ts :=
  h.tracks.costOfAll_eq

/-- A way through all tokens leads through each of their beginnings. -/
theorem Reaches.exists_between (h : Reaches limit p (ts ++ us) p'') :
    ∃ p', Reaches limit p ts p' ∧ Reaches limit p' us p'' := by
  induction ts generalizing p with
  | nil => exact ⟨p, .nil p, h⟩
  | cons t ts ih =>
    cases h with
    | cons hd hn h =>
      obtain ⟨p', hts, hus⟩ := ih h
      exact ⟨p', .cons hd hn hts, hus⟩

/-- An operand may start just where reading from the left awaits one. -/
theorem operandMayStart_iff :
    OperandMayStart ts ↔ ∃ limit around, Reaches limit start ts (awaiting around) := by
  constructor
  · rintro ⟨t, hnum, us, e, hd⟩
    obtain ⟨limit, p, hr, -⟩ := derives_iff_reaches.mp hd
    rw [List.append_assoc] at hr
    obtain ⟨p', hts, hus⟩ := hr.exists_between
    cases p' with
    | awaiting around => exact ⟨limit, around, hts⟩
    | holding e around =>
      cases hus with
      | cons _ hn _ =>
        rw [next_holding_of_isNumber hnum] at hn
        cases hn
  · rintro ⟨limit, around, hr⟩
    obtain ⟨x, hx⟩ := next_number around
    have hdeep : (awaiting around).exceeds (max limit (costOfAll around)) = false :=
      Descent.not_exceeds (Nat.le_max_right _ _)
    exact ⟨number, rfl, ((hr.mono (Nat.le_max_left _ _)).append (.token hdeep hx)).viable⟩

/-- Reading stops for its depth only where it awaits an operand that is nested too deeply. -/
theorem exists_awaiting_of_tooDeep {finish : Nat} (h : p.read limit ts finish = .error .tooDeep) :
    ∃ before after around, ts = before ++ after ∧ Reaches limit p before (awaiting around) ∧
      limit < costOfAll around := by
  have hexceeds : ∀ p : Partial, p.exceeds limit = true →
      ∃ around, p = awaiting around ∧ limit < costOfAll around := by
    intro p hp
    cases p with
    | awaiting around => exact ⟨around, rfl, by simpa [exceeds] using hp⟩
    | holding e around => cases hp
  induction ts generalizing p with
  | nil =>
    simp only [read] at h
    split at h
    · rename_i hp
      obtain ⟨around, rfl, hlt⟩ := hexceeds p hp
      exact ⟨[], [], around, rfl, .nil _, hlt⟩
    · split at h <;> cases h
  | cons t ts ih =>
    simp only [read] at h
    split at h
    · rename_i hp
      obtain ⟨around, rfl, hlt⟩ := hexceeds p hp
      exact ⟨[], t :: ts, around, rfl, .nil _, hlt⟩
    · rename_i hp
      split at h
      · rename_i p₁ hn
        obtain ⟨before, after, around, rfl, hr, hlt⟩ := ih h
        exact ⟨t :: before, after, around, rfl, .cons (by simpa using hp) hn hr, hlt⟩
      · cases h

/-- Reading stops at the first place that is nested too deeply, whatever follows. -/
theorem Reaches.read_tooDeep (h : Reaches limit' p ts p') (hdeep : p'.exceeds limit = true)
    (us : List Token) (finish : Nat) : p.read limit (ts ++ us) finish = .error .tooDeep := by
  induction h with
  | nil p => exact read_of_exceeds hdeep us finish
  | @cons p p₁ p₂ t ts _ hn _ ih =>
    by_cases hp : p.exceeds limit = true
    · exact read_of_exceeds hp _ finish
    · rw [List.cons_append, read, if_neg hp, hn]
      exact ih hdeep

end Partial

/-- An eager descent stops for its depth only where the other one does. -/
theorem parse_tooDeep_of_eager {ops : Arithmetic} {s : Source}
    (h : parseEagerly ops s = .error .tooDeep) : parse s = .error .tooDeep := by
  have hagree := ((Descent.agree ops Descent.budget).expression (.ofSource s)).noting .wholeText
  simp only [parseEagerly, Descent.wholeText] at h
  simp only [parse, Descent.wholeText]
  generalize Descent.noting .wholeText
    (Descent.expression .tree Descent.budget (.ofSource s)) = r at hagree ⊢
  generalize Descent.noting .wholeText
    (Descent.expression (.eager ops) Descent.budget (.ofSource s)) = r' at hagree h
  cases hagree with
  | value he =>
    -- behind a whole expression, only a token that is left can stop either
    simp only [Descent.andThen_ok] at h
    split at h
    · cases h
    · rename_i hstop
      split at hstop
      · cases hstop
      · cases hstop
        cases h
  | undefined he hr =>
    obtain ⟨f, current, rfl, -⟩ := hr
    cases h
  | @stop stop =>
    cases stop with
    | tooDeep => rfl
    | failed f t => cases h
  | sooner hr =>
    obtain ⟨f, current, rfl, -⟩ := hr
    cases h

/-- The parser stops for its depth just when an operand of the text costs more than the limit. -/
theorem parse_eq_tooDeep {s : Source} {ts : List Token} {finish : Nat}
    (h : Lexer.Reads s ts finish) :
    parse s = .error .tooDeep ↔ ∃ before after, ts = before ++ after ∧ OperandMayStart before ∧
      Descent.nestingLimit < nestingCost before := by
  have hread : parse s = .error .tooDeep ↔
      start.read Descent.nestingLimit ts finish = .error .tooDeep := by
    rw [parse_eq_read, Lexer.reads_iff.mp h]
    cases start.read Descent.nestingLimit ts finish with
    | ok e => simp [Except.mapError]
    | error stop => cases stop <;> simp [Except.mapError, Stop.toParseFault]
  rw [hread]
  constructor
  · intro hdeep
    obtain ⟨before, after, around, hts, hr, hlt⟩ := exists_awaiting_of_tooDeep hdeep
    rw [hr.costOfAll_eq] at hlt
    exact ⟨before, after, hts, operandMayStart_iff.mpr ⟨_, _, hr⟩, hlt⟩
  · rintro ⟨before, after, rfl, hstart, hlt⟩
    obtain ⟨limit, around, hr⟩ := operandMayStart_iff.mp hstart
    refine hr.read_tooDeep ?_ after finish
    rwa [exceeds, hr.costOfAll_eq, decide_eq_true_eq]

/-- No operand of the tokens costs more than the limit. -/
def NestedWithin (limit : Nat) (ts : List Token) : Prop :=
  ∀ before after, ts = before ++ after → OperandMayStart before → nestingCost before ≤ limit

/-- What no beginning of the tokens costs, no operand does. -/
theorem nestedWithin_of_take {limit : Nat} {ts : List Token}
    (h : ∀ n < ts.length + 1, nestingCost (ts.take n) ≤ limit) : NestedWithin limit ts := by
  intro before after hts _
  have hbefore := h before.length (by rw [hts, List.length_append]; omega)
  rwa [hts, List.take_left] at hbefore

theorem NestedWithin.parse_ne_tooDeep {s : Source} {ts : List Token} {finish : Nat}
    (h : NestedWithin Descent.nestingLimit ts) (hr : Lexer.Reads s ts finish) :
    parse s ≠ .error .tooDeep := by
  intro hdeep
  obtain ⟨before, after, hts, hstart, hlt⟩ := (parse_eq_tooDeep hr).mp hdeep
  exact Nat.not_lt.mpr (h before after hts hstart) hlt

/-- **Depth follows nesting, never length.** If every operand of a text costs less than 450, reading
it does not stop for its depth in either mode, however long it is. If an operand costs more than
4500, and no token up to there is offending, parsing does stop for its depth, whatever follows. -/
theorem parse_tooDeep_by_nesting (s : Source) (ts : List Token) (finish : Nat)
    (h : Lexer.Reads s ts finish) :
    ((∀ before after, ts = before ++ after → OperandMayStart before → nestingCost before < 450) →
      parse s ≠ .error .tooDeep ∧ ∀ ops, parseEagerly ops s ≠ .error .tooDeep) ∧
    (∀ before after, ts = before ++ after → OperandMayStart before → 4500 < nestingCost before →
      parse s = .error .tooDeep) := by
  have hlimit : Descent.nestingLimit = 996 := rfl
  constructor
  · intro hcost
    have hnested : NestedWithin Descent.nestingLimit ts := by
      intro before after hts hstart
      have hlow := hcost before after hts hstart
      omega
    have htree := hnested.parse_ne_tooDeep h
    exact ⟨htree, fun ops heager => htree (parse_tooDeep_of_eager heager)⟩
  · intro before after hts hstart hcost
    exact (parse_eq_tooDeep h).mpr ⟨before, after, hts, hstart, by omega⟩

/-- Behind the beginnings of groups, an operand costs four for each of them. -/
theorem operandMayStart_of_groups {ts : List Token} (h : ∀ t ∈ ts, t.isSymbol "(" = true) :
    OperandMayStart ts ∧ nestingCost ts = 4 * ts.length := by
  have hreaches : ∀ limit around, costOfAll around + 4 * ts.length ≤ limit →
      ∃ outer, Reaches limit (awaiting around) ts (awaiting outer) ∧
        costOfAll outer = costOfAll around + 4 * ts.length := by
    intro limit around hlimit
    induction ts generalizing around with
    | nil => exact ⟨around, .nil _, rfl⟩
    | cons t ts ih =>
      have hopen := h t List.mem_cons_self
      have hcost := costOfAll_cons (.group t.pos) around
      rw [cost] at hcost
      rw [List.length_cons] at hlimit ⊢
      obtain ⟨outer, hr, houter⟩ := ih (fun u hu => h u (List.mem_cons_of_mem t hu))
        (.group t.pos :: around) (by omega)
      exact ⟨outer, .cons (Descent.not_exceeds (by omega)) (next_group hopen around) hr, by omega⟩
  obtain ⟨outer, hr, houter⟩ := hreaches _ [] (Nat.le_refl _)
  refine ⟨operandMayStart_iff.mpr ⟨_, outer, hr⟩, ?_⟩
  rw [← hr.costOfAll_eq, houter]
  exact Nat.zero_add _

/-- Depth is no fault of `(1+-2)*(3`, in either mode; of 1126 groups opened one in the other it
is. -/
theorem parse_tooDeep_by_groups :
    (parse (.text ['(', '1', '+', '-', '2', ')', '*', '(', '3']) ≠ .error .tooDeep ∧
      ∀ ops, parseEagerly ops (.text ['(', '1', '+', '-', '2', ')', '*', '(', '3']) ≠
        .error .tooDeep) ∧
    parse (.text (List.replicate 1126 '(')) = .error .tooDeep := by
  constructor
  · have hnested : NestedWithin 449 (Lexer.tokens
        (.text ['(', '1', '+', '-', '2', ')', '*', '(', '3'])).1 :=
      nestedWithin_of_take (by decide +kernel)
    refine (parse_tooDeep_by_nesting _ _ _ (Lexer.reads_tokens _)).1 ?_
    intro before after hts hstart
    exact Nat.lt_succ_of_le (hnested before after hts hstart)
  · have hgroups : (Lexer.tokens (.text (List.replicate 1126 '('))).1.length = 1126 ∧
        ∀ t ∈ (Lexer.tokens (.text (List.replicate 1126 '('))).1, t.isSymbol "(" = true := by
      decide +kernel
    obtain ⟨hstart, hcost⟩ := operandMayStart_of_groups hgroups.2
    refine (parse_tooDeep_by_nesting _ _ _ (Lexer.reads_tokens _)).2 _ []
      (List.append_nil _).symm hstart ?_
    rw [hcost, hgroups.1]
    decide

/-! ## The grammar, within the limit -/

/-- **The parser accepts exactly its grammar.** On every text in which no operand is nested too
deeply, it gives a tree if and only if the tokens of the text, up to the end, derive that tree as a
sum; and no text derives two trees, however deeply it is nested. -/
theorem parse_accepts_grammar (s : Source) :
    (∀ ts finish, Lexer.Reads s ts finish → NestedWithin Descent.nestingLimit ts →
      ∀ e, parse s = .ok e ↔ Spells s e) ∧
    (∀ e e', Spells s e → Spells s e' → e = e') := by
  constructor
  · intro ts finish hr hnested e
    exact ⟨spells_of_parse, fun h => parse_of_spells h (hnested.parse_ne_tooDeep hr)⟩
  · intro e e' h h'
    rw [spells_iff] at h h'
    exact h.unique h'

/-- Differences gather from the left, a product binds tighter, and its signed operand is a group. -/
theorem spells_difference_of_product :
    ∃ e, parse (.text "8-2-3*-(1+1)".toList) = .ok e ∧ Spells (.text "8-2-3*-(1+1)".toList) e ∧
      e = .binary (.known .sub)
        (.binary (.known .sub) (.literal ⟨0x4020000000000000⟩) (.literal ⟨0x4000000000000000⟩))
        (.binary (.known .mul) (.literal ⟨0x4008000000000000⟩)
          (.unary (.known .minus)
            (.binary (.known .add) (.literal ⟨0x3FF0000000000000⟩)
              (.literal ⟨0x3FF0000000000000⟩)))) := by
  have hnested : NestedWithin Descent.nestingLimit
      (Lexer.tokens (.text "8-2-3*-(1+1)".toList)).1 := nestedWithin_of_take (by decide +kernel)
  have haccepts := (parse_accepts_grammar _).1 _ _ (Lexer.reads_tokens _) hnested
  refine ⟨_, ?parsed, ?spelled, rfl⟩
  case parsed => decide +kernel
  case spelled => exact (haccepts _).mp (by decide +kernel)

end Calculator
