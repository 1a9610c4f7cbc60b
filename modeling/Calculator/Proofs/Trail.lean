import Calculator.Proofs.Waiting

/-!
# Trails describe the open constructs

A failure collects a crumb from each construct that it leaves. Where it happened and what waits
there settle the whole trail: which constructs it names, in which order, and how long it is. The
crumbs of first operands and of the whole text make up the rest; each of them describes the token at
which reading stopped.
-/

namespace Calculator

open Construct Partial

/-- The construct that a crumb names, and its offset. -/
def Crumb.opening? : Crumb → Option (Role × Nat)
  | signedOperand _ offset => some (.sign, offset)
  | group offset => some (.group, offset)
  | _ => none

/-- The token that a crumb describes as the current one. -/
def Crumb.current? : Crumb → Option Token
  | wholeText current => some current
  | firstOperand current => some current
  | rightOperand _ current => some current
  | evaluated _ current => some current
  | _ => none

/-- What crumbs name by its offset: signs and groups. -/
def Waiting.opening? (w : Waiting) : Option (Role × Nat) :=
  if w.role = .operator then none else some (w.role, w.token.pos)

/-- What waits around the innermost group. -/
def beyondGroup (ws : List Waiting) : List Waiting := (ws.dropWhile fun w => w.role ≠ .group).tail

/-- A trail, from the innermost crumb outwards, describes what waits at a token. -/
structure Describes (t : Token) (ws : List Waiting) (trail : List Crumb) : Prop where
  length_eq : trail.length = 2 + countOf .operator ws + countOf .sign ws + 2 * countOf .group ws
  /-- The signs and groups that are named are those that wait. -/
  openings : trail.filterMap Crumb.opening? = ws.filterMap Waiting.opening?
  decreasing : ((trail.filterMap Crumb.opening?).map Prod.snd).Pairwise (· > ·)
  current : ∀ c ∈ trail, ∀ u ∈ c.current?, u = t

/-! ## The way out -/

@[simp] theorem Failure.trail_note (f : Failure) (c : Crumb) :
    (f.note c).trail = c :: f.trail := rfl

@[simp] theorem Construct.trail_leave (t : Token) (first : Bool) (f : Failure) :
    (escape.leave t first f).trail = (if first then [.firstOperand t] else []) ++ f.trail := by
  cases first <;> rfl

namespace Tracks

variable {n : Nat} {around : List Construct} {ws : List Waiting} {t : Token}

/-- Each chain on the way out leaves one crumb of its first operand, and so does the whole text. -/
theorem length_escape (h : Tracks n around ws) (first : Bool) (f : Failure) :
    (escape t first around f).trail.length = f.trail.length + (if first then 1 else 0) + 1 +
      countOf .operator ws + countOf .sign ws + 2 * countOf .group ws := by
  induction h generalizing first f with
  | nil => cases first <;> rfl
  | signed sign t _ ih =>
    rw [escape, ih]
    simp
    omega
  | joined left ht hhead _ ih =>
    rw [escape, ih]
    cases first <;> simp <;> omega
  | group t _ ih =>
    rw [escape, ih]
    cases first <;> simp <;> omega

theorem openings_escape (h : Tracks n around ws) (first : Bool) (f : Failure) :
    (escape t first around f).trail.reverse.filterMap Crumb.opening? =
      f.trail.reverse.filterMap Crumb.opening? ++ ws.filterMap Waiting.opening? := by
  induction h generalizing first f with
  | nil => cases first <;> simp [escape, Crumb.opening?]
  | signed sign t _ ih =>
    rw [escape, ih]
    simp [Crumb.opening?, Waiting.opening?]
  | joined left ht hhead _ ih =>
    rw [escape, ih]
    cases first <;> simp [Crumb.opening?, Waiting.opening?]
  | group t _ ih =>
    rw [escape, ih]
    cases first <;> simp [List.filterMap_cons, Crumb.opening?, Waiting.opening?]

end Tracks

/-- On its way out, a failure names no current token but the one at which reading stopped. -/
theorem Construct.current_escape {t : Token} (first : Bool) (around : List Construct) {f : Failure}
    (h : ∀ c ∈ f.trail, ∀ u ∈ c.current?, u = t) :
    ∀ c ∈ (escape t first around f).trail, ∀ u ∈ c.current?, u = t := by
  induction around generalizing first f with
  | nil => cases first <;> simpa [escape, Crumb.current?] using h
  | cons k around ih =>
    cases k with
    | signed sign offset => exact ih first (by simpa [Crumb.current?] using h)
    | joined op left => exact ih false (by cases first <;> simpa [Crumb.current?] using h)
    | group offset => exact ih true (by cases first <;> simpa [Crumb.current?] using h)

/-! ## Offsets decrease outwards -/

section Offsets

variable {behind : Bool} {t : Token} {ts : List Token} {w w' : Waiting} {ws : List Waiting}

theorem Waiting.eq_of_settle {p : Nat} (h : w.settle p = some w') : w' = w := by
  simp only [settle] at h
  split at h
  · cases h
  · exact (Option.some.inj h).symm

theorem Waiting.token_close (h : w.close = some w') : w'.token = w.token := by
  simp only [close] at h
  split at h
  · cases h
  · cases h
    rfl

theorem Waiting.token_after (h : w.after behind t = some w') : w'.token = w.token := by
  simp only [after] at h
  split at h
  · cases h
    rfl
  · split at h
    · obtain ⟨v, hv, hsettle⟩ := Option.bind_eq_some_iff.mp h
      rw [eq_of_settle hsettle, token_close hv]
    · split at h
      · rw [eq_of_settle h]
      · split at h
        · rw [eq_of_settle h]
        · cases h
          rfl

theorem Waiting.token_afterAll (h : w.afterAll behind ts = some w') : w'.token = w.token := by
  induction ts generalizing behind w with
  | nil =>
    cases h
    rfl
  | cons t ts ih =>
    obtain ⟨v, hv, hafter⟩ := Option.bind_eq_some_iff.mp h
    rw [ih hafter, token_after hv]

/-- What waits was begun by the tokens, the last first. -/
theorem sublist_waitingFrom (behind : Bool) (ts : List Token) :
    ((waitingFrom behind ts).map Waiting.token).Sublist ts.reverse := by
  induction ts generalizing behind with
  | nil => exact .slnil
  | cons t ts ih =>
    rw [waitingFrom, List.map_append, List.reverse_cons]
    refine (ih _).append ?_
    cases hrole : t.role? behind with
    | none => simp [begun, hrole]
    | some r =>
      cases hafter : Waiting.afterAll t.endsOperand ts ⟨r, t, 0⟩ with
      | none => simp [begun, hrole, hafter]
      | some w => simp [begun, hrole, hafter, Waiting.token_afterAll hafter]

/-- The offsets of signs and groups that wait decrease outwards, as those of the tokens do. -/
theorem pairwise_openings (hsub : (ws.map Waiting.token).Sublist ts.reverse)
    (h : ts.Pairwise fun t u => t.pos < u.pos) :
    ((ws.filterMap Waiting.opening?).map Prod.snd).Pairwise (· > ·) := by
  have hopenings : ((ws.filterMap Waiting.opening?).map Prod.snd).Sublist
      ((ws.map Waiting.token).map Token.pos) := by
    clear hsub
    induction ws with
    | nil => exact .slnil
    | cons w ws ih =>
      by_cases hw : w.role = .operator
      · rw [List.filterMap_cons_none (by simp [Waiting.opening?, hw])]
        exact ih.cons _
      · rw [List.filterMap_cons_some (b := (w.role, w.token.pos)) (by simp [Waiting.opening?, hw])]
        exact ih.cons_cons _
  have hreverse : (ts.reverse.map Token.pos).Pairwise (· > ·) := by
    rw [List.pairwise_map, List.pairwise_reverse]
    exact h
  exact hreverse.sublist (hopenings.trans (hsub.map Token.pos))

end Offsets

/-! ## Failures of the parser -/

/-- The trail of a failure that leaves the constructs that wait. -/
theorem Tracks.describes {n : Nat} {around : List Construct} {ws : List Waiting}
    {ts : List Token} (h : Tracks n around ws) (hsub : (ws.map Waiting.token).Sublist ts.reverse)
    (hpos : ts.Pairwise fun t u => t.pos < u.pos) (t : Token) (cause : Cause) (pos : Nat) :
    Describes t ws (escape t true around (.atPos cause pos)).trail.reverse := by
  have hopenings := h.openings_escape (t := t) true (.atPos cause pos)
  refine ⟨?_, hopenings, ?_, ?_⟩
  · rw [List.length_reverse, h.length_escape]
    simp [Failure.atPos]
  · rw [hopenings]
    exact pairwise_openings hsub hpos
  · intro c hc
    exact current_escape true around (by simp [Failure.atPos]) c (List.mem_reverse.mp hc)

namespace Partial

variable {limit : Nat} {p : Partial} {ts : List Token} {t : Token} {e : Expr}

/-- Tokens are those of an expression just when they lead to a complete one. -/
theorem Reaches.exists_derives_iff (h : Reaches limit start ts p) :
    (∃ e, Derives .sum ts e) ↔ ∃ e, p.complete? = some e := by
  constructor
  · rintro ⟨e, hd⟩
    obtain ⟨limit', p', hr, hc⟩ := derives_iff_reaches.mp hd
    rw [← List.append_nil ts] at hr
    cases hr.of_append h with
    | nil => exact ⟨e, hc⟩
  · rintro ⟨e, hc⟩
    exact ⟨e, derives_iff_reaches.mpr ⟨limit, p, h, hc⟩⟩

/-- Behind a complete expression, a failure leaves nothing. -/
theorem trail_objection_of_complete? (h : p.complete? = some e) (t : Token) :
    (p.objection t).trail = [] := by
  cases p with
  | awaiting around => cases h
  | holding e₀ around =>
    simp only [complete?] at h
    split at h
    · rename_i hsettle
      simp only [objection, hsettle]
      rfl
    · cases h

/-- Where an operand must follow, no group is blamed for being open. -/
theorem misplaced_ne_unclosed (t : Token) : misplaced t ≠ .unclosed t := by
  simp only [misplaced]
  split
  · split
    · rename_i cause hcause
      intro h
      have hkind := kind_of_numberValue hcause
      rw [h] at hkind
      cases hkind
    · simp
  · simp

/-- Elsewhere, it leaves what waits; a group that should have been closed is left already. -/
theorem Reaches.describes_objection (h : Reaches limit start ts p) (hc : p.complete? = none)
    (hpos : ts.Pairwise fun t u => t.pos < u.pos) (t : Token) :
    Describes t
      (if (p.objection t).cause = .unclosed t then beyondGroup (waiting ts) else waiting ts)
      (p.objection t).trail.reverse := by
  have htracks := h.tracks
  have hsub : ((waiting ts).map Waiting.token).Sublist ts.reverse := sublist_waitingFrom false ts
  cases p with
  | awaiting around =>
    have hcause : ((awaiting around).objection t).cause = misplaced t := by
      rw [objection, cause_escape]
      rfl
    rw [hcause, if_neg (misplaced_ne_unclosed t)]
    exact htracks.describes hsub hpos t (misplaced t) t.pos
  | holding e around =>
    obtain ⟨e', outer, hsettle⟩ : ∃ e' outer, settle 1 e around = (e', outer) := ⟨_, _, rfl⟩
    have hhead := settle_head_lt 1 e around
    have hgroup := settle_snd 1 e around
    rw [hsettle] at hhead hgroup
    cases outer with
    | nil => simp [complete?, hsettle] at hc
    | cons k outer =>
      obtain ⟨offset, rfl⟩ := eq_group_of_strength_lt (hhead k rfl)
      have hobjection : (holding e around).objection t =
          escape t true outer (.atPos (.unclosed t) t.pos) := by
        simp only [objection, hsettle]
      rw [← unsettled_unsettled (show 1 ≤ 3 by decide)] at hgroup
      obtain ⟨inner, w, rest, hws, hinner, hw, -, hrest⟩ := htracks.exists_group hgroup.symm
      have hbeyond : beyondGroup (waiting ts) = rest := by
        rw [beyondGroup, hws, List.dropWhile_append_of_pos (by simpa using hinner)]
        simp [hw]
      have hsuffix : (rest.map Waiting.token).Sublist ((waiting ts).map Waiting.token) := by
        rw [hws]
        exact ((List.sublist_cons_self w rest).trans (List.sublist_append_right inner _)).map _
      have hcause := cause_escape t true outer (.atPos (.unclosed t) t.pos)
      rw [hobjection, hcause, Failure.atPos, if_pos rfl, hbeyond]
      exact hrest.describes (hsuffix.trans hsub) hpos t _ _

end Partial

/-- **Trails describe exactly the open constructs.** If a text is rejected, and not for its depth,
then at its first offending token. Behind a complete expression the trail is empty. Otherwise it has
two crumbs and one for each operator and each sign that waits there, and two for each group; it
names the offsets of these signs and groups, decreasing outwards; and all its crumbs that describe
the current token describe the offending one. If a group should have been closed there, neither the
group nor what is inside it counts. -/
theorem parse_trail_describes (s : Source) (f : Failure) (h : parse s = .error (.failed f)) :
    ∃ ts finish before t after, Lexer.Reads s ts finish ∧
      ts ++ [.finish finish] = before ++ t :: after ∧ f.pos = some (t.pos : Int) ∧
      Viable before ∧ ¬ ViableToEnd (before ++ [t]) ∧
      ((∃ e, Derives .sum before e) → f.trail = []) ∧
      ((¬ ∃ e, Derives .sum before e) → Describes t
        (if f.cause = .unclosed t then beyondGroup (waiting before) else waiting before)
        f.trail.reverse) := by
  obtain ⟨t, hread⟩ := parse_eq_failed.mp h
  have hreads := Lexer.reads_tokens s
  obtain ⟨before, after, p, hts, hr, hrej, rfl⟩ := exists_rejects_of_read hreads.1 hread
  have hprefix : before <+: (Lexer.tokens s).1 := by
    refine List.prefix_of_prefix_length_le ⟨t :: after, hts.symm⟩ (List.prefix_append _ _) ?_
    have hlength := congrArg List.length hts
    simp only [List.length_append, List.length_cons, List.length_nil] at hlength
    omega
  have hbefore := hreads.pairwise_pos.sublist hprefix.sublist
  refine ⟨_, _, before, t, after, hreads, hts, p.pos_objection t, hr.viable,
    hrej.not_viableToEnd hr, ?_, ?_⟩
  · intro hderives
    obtain ⟨e, hc⟩ := hr.exists_derives_iff.mp hderives
    exact trail_objection_of_complete? hc t
  · intro hnot
    rw [hr.exists_derives_iff] at hnot
    have hincomplete : p.complete? = none := by
      cases hc : p.complete? with
      | none => rfl
      | some e => exact absurd ⟨e, hc⟩ hnot
    exact hr.describes_objection hincomplete hbefore t

/-- Two operators, a sign and a group wait at the end of `2*-(1+`: its trail has seven crumbs, which
name the group at offset three and then the sign at offset two. -/
theorem parse_trail_of_open_product :
    ∃ f, parse (.text ['2', '*', '-', '(', '1', '+']) = .error (.failed f) ∧
      f.trail.length = 7 ∧ f.trail.reverse.filterMap Crumb.opening? = [(.group, 3), (.sign, 2)] ∧
      ∃ before t, Viable before ∧ t.pos = 6 ∧ Describes t (waiting before) f.trail.reverse := by
  have hparse : parse (.text ['2', '*', '-', '(', '1', '+']) =
      .error (.failed ⟨.unexpected (.finish 6), some 6, [.wholeText (.finish 6),
        .rightOperand .mul (.finish 6), .firstOperand (.finish 6), .signedOperand .minus 2,
        .group 3, .rightOperand .add (.finish 6), .firstOperand (.finish 6)]⟩) := by decide +kernel
  obtain ⟨-, -, before, t, -, -, -, hpos, hviable, -, hempty, hdescribes⟩ :=
    parse_trail_describes _ _ hparse
  have hopen : ¬ ∃ e, Derives .sum before e := by
    intro hderives
    cases hempty hderives
  have hcast : (6 : Int) = t.pos := Option.some.inj hpos
  refine ⟨_, hparse, rfl, rfl, before, t, hviable, by omega, ?_⟩
  simpa using hdescribes hopen

end Calculator
