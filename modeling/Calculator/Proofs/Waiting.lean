import Calculator.Proofs.ViablePrefix
import Mathlib.Data.List.Basic

/-!
# What waits at a token

A sign waits for its operand, an operator for the end of its right operand and a group for its
closing parenthesis. Whether one of them still waits at a later token is a matter of the tokens in
between: `Waiting.afterAll` looks for the token that ends it and counts the groups opened on the
way. No rule of the descent is needed for that, nor the other constructs around the place.

The constructs that a partial expression has open are those that wait at its end, with the innermost
first (`Reaches.tracks`). So the length of a trail and the depth of the descent can be read off the
tokens.
-/

namespace Calculator

open Construct

/-- What a token can begin. -/
inductive Role where
  | sign
  | operator
  | group
deriving DecidableEq, Repr

namespace Token

/-- Whether an operand ends with the token. -/
def endsOperand (t : Token) : Bool := t.isNumber || t.isSymbol ")"

/-- What a token begins, behind an operand or where one must follow. -/
def role? (behind : Bool) (t : Token) : Option Role :=
  if t.isSymbol "(" then some .group
  else if behind then t.operator?.map fun _ => .operator
  else t.sign?.map fun _ => .sign

end Token

/-- A token that began something, and how many groups were opened behind it and not closed. -/
structure Waiting where
  role : Role
  token : Token
  inside : Nat
deriving DecidableEq, Repr

namespace Waiting

/-- How strongly the operand that follows is held. Parentheses do not hold it. -/
def strength (w : Waiting) : Nat :=
  match w.role with
  | .sign => 3
  | .operator => w.token.priority
  | .group => 0

/-- What holds an operand that has ended with at least the given strength is over, unless it stands
around a group that is still open. -/
def settle (strength : Nat) (w : Waiting) : Option Waiting :=
  if w.inside = 0 ∧ strength ≤ w.strength then none else some w

/-- The innermost group is closed: it is one of those inside, or everything up to it is over. -/
def close (w : Waiting) : Option Waiting :=
  if w.inside = 0 then none else some { w with inside := w.inside - 1 }

/-- What still waits behind one more token, which follows an operand or stands where one must. No
operator binds as strongly as a sign, so a sign is over with its operand; the right operand of an
operator goes on until one follows that binds no more strongly. -/
def after (behind : Bool) (t : Token) (w : Waiting) : Option Waiting :=
  if t.isSymbol "(" then some { w with inside := w.inside + 1 }
  else if t.isSymbol ")" then w.close.bind (settle 3)
  else if t.isNumber then w.settle 3
  else if behind && t.operator?.isSome then w.settle t.priority
  else some w

/-- What still waits behind more tokens. -/
def afterAll : Bool → List Token → Waiting → Option Waiting
  | _, [], w => some w
  | behind, t :: ts, w => (w.after behind t).bind (afterAll t.endsOperand ts)

end Waiting

/-- What a token begins, as a list of at most one. -/
def begun (behind : Bool) (t : Token) : List Waiting :=
  (t.role? behind).toList.map fun r => ⟨r, t, 0⟩

/-- What waits behind the tokens and was begun by one of them, the last first. -/
def waitingFrom : Bool → List Token → List Waiting
  | _, [] => []
  | behind, t :: ts =>
    waitingFrom t.endsOperand ts ++ (begun behind t).filterMap (Waiting.afterAll t.endsOperand ts)

/-- What waits behind the tokens of a text, the innermost first. -/
def waiting (ts : List Token) : List Waiting := waitingFrom false ts

/-- How many of a role wait. -/
def countOf (r : Role) (ws : List Waiting) : Nat := ws.countP fun w => w.role = r

@[simp] theorem countOf_cons (r : Role) (w : Waiting) (ws : List Waiting) :
    countOf r (w :: ws) = (if w.role = r then 1 else 0) + countOf r ws := by
  simp [countOf, List.countP_cons, Nat.add_comm]

/-! ## What one token ends and begins -/

section Tokens

variable {behind : Bool} {t : Token}

theorem Token.endsOperand_of_isSymbol {s : String} (h : t.isSymbol s = true) (hne : s ≠ ")") :
    t.endsOperand = false := by
  simp [endsOperand, isNumber_of_isSymbol h, isSymbol_of_ne h hne]

/-- Where an operand ends, nothing begins. -/
theorem begun_of_endsOperand (h : t.endsOperand = true) : begun behind t = [] := by
  rcases Bool.or_eq_true_iff.mp h with hnum | hclose
  · have hkind : t.kind ≠ .symbol := by
      intro hkind
      simp [Token.isNumber, hkind] at hnum
    simp [begun, Token.role?, Token.isSymbol, Token.operator?, Token.sign?, hkind]
  · have hopen : t.isSymbol "(" = false := Token.isSymbol_of_ne hclose (by decide)
    have hsign : t.sign? = none := by
      simp [Token.sign?, Token.text_of_isSymbol hclose, Sign.ofText?]
    simp [begun, Token.role?, hopen, Token.operator?_of_isSymbol_close hclose, hsign]

theorem begun_group (h : t.isSymbol "(" = true) : begun behind t = [⟨.group, t, 0⟩] := by
  simp [begun, Token.role?, h]

theorem begun_sign {sign : Sign} (h : t.isSymbol sign.text = true) :
    begun false t = [⟨.sign, t, 0⟩] := by
  have hopen : t.isSymbol "(" = false := Token.isSymbol_of_ne h (by cases sign <;> decide)
  simp [begun, Token.role?, hopen, Token.sign?_eq_some.mpr h]

theorem begun_operator {op : Operator} (h : t.isSymbol op.text = true) :
    begun true t = [⟨.operator, t, 0⟩] := by
  have hopen : t.isSymbol "(" = false := Token.isSymbol_of_ne h (by cases op <;> decide)
  simp [begun, Token.role?, hopen, Token.operator?_eq_some.mpr h]

namespace Waiting

theorem after_number (h : t.isNumber = true) : after behind t = settle 3 := by
  funext w
  simp [after, Token.isSymbol_of_isNumber h, h]

theorem after_group (h : t.isSymbol "(" = true) :
    after behind t = some ∘ fun w => { w with inside := w.inside + 1 } := by
  funext w
  simp [after, h]

theorem after_sign {sign : Sign} (h : t.isSymbol sign.text = true) : after false t = some := by
  have hopen : t.isSymbol "(" = false := Token.isSymbol_of_ne h (by cases sign <;> decide)
  have hclose : t.isSymbol ")" = false := Token.isSymbol_of_ne h (by cases sign <;> decide)
  funext w
  simp [after, hopen, hclose, Token.isNumber_of_isSymbol h]

theorem after_operator {op : Operator} (h : t.isSymbol op.text = true) :
    after true t = settle t.priority := by
  have hopen : t.isSymbol "(" = false := Token.isSymbol_of_ne h (by cases op <;> decide)
  have hclose : t.isSymbol ")" = false := Token.isSymbol_of_ne h (by cases op <;> decide)
  funext w
  simp [after, hopen, hclose, Token.isNumber_of_isSymbol h, Token.operator?_eq_some.mpr h]

theorem after_closing (h : t.isSymbol ")" = true) :
    after behind t = fun w => w.close.bind (settle 3) := by
  have hopen : t.isSymbol "(" = false := Token.isSymbol_of_ne h (by decide)
  funext w
  simp [after, hopen, h]

end Waiting

end Tokens

/-! ## Open constructs and what waits -/

/-- What stays open around an operand when the constructs that hold on to it with at least the given
strength are completed. -/
def unsettled (strength : Nat) (around : List Construct) : List Construct :=
  around.dropWhile fun k => strength ≤ k.strength

section Unsettled

variable {p q : Nat} {k : Construct} {around : List Construct}

theorem settle_snd (p : Nat) (e : Expr) (around : List Construct) :
    (settle p e around).2 = unsettled p around := by
  induction around generalizing e with
  | nil => rfl
  | cons k around ih =>
    by_cases hk : p ≤ k.strength
    · rw [settle_cons_of_le hk, ih, unsettled, unsettled, List.dropWhile_cons_of_pos (by simpa)]
    · rw [settle, if_neg hk, unsettled, List.dropWhile_cons_of_neg (by simpa using hk)]

theorem unsettled_cons_of_le (h : p ≤ k.strength) :
    unsettled p (k :: around) = unsettled p around :=
  List.dropWhile_cons_of_pos (by simpa using h)

theorem unsettled_cons_of_lt (h : k.strength < p) : unsettled p (k :: around) = k :: around :=
  List.dropWhile_cons_of_neg (by simpa using h)

theorem unsettled_eq_self (h : ∀ k ∈ around.head?, k.strength < p) :
    unsettled p around = around := by
  rw [← settle_snd p (.foreign ""), settle_eq_self _ h]

theorem unsettled_head_lt (p : Nat) (around : List Construct) :
    ∀ k ∈ (unsettled p around).head?, k.strength < p := by
  rw [← settle_snd p (.foreign "") around]
  exact settle_head_lt p _ around

/-- What a weaker operator settles includes what a stronger one does. -/
theorem unsettled_unsettled (h : p ≤ q) (around : List Construct) :
    unsettled p (unsettled q around) = unsettled p around := by
  induction around with
  | nil => rfl
  | cons k around ih =>
    by_cases hk : q ≤ k.strength
    · rw [unsettled_cons_of_le hk, ih, unsettled_cons_of_le (by omega)]
    · rw [unsettled_cons_of_lt (by omega)]

end Unsettled

/-- The open constructs are those that wait, in a place with `n` groups inside. An operator stands
in front of weaker ones only. -/
inductive Tracks : Nat → List Construct → List Waiting → Prop where
  | nil (n : Nat) : Tracks n [] []
  | signed {n : Nat} {around : List Construct} {ws : List Waiting} (sign : Sign) (t : Token)
      (h : Tracks n around ws) : Tracks n (.signed sign t.pos :: around) (⟨.sign, t, n⟩ :: ws)
  | joined {n : Nat} {around : List Construct} {ws : List Waiting} {t : Token} {op : Operator}
      (left : Expr) (ht : t.priority = op.priority)
      (hhead : ∀ k ∈ around.head?, k.strength < op.priority) (h : Tracks n around ws) :
      Tracks n (.joined op left :: around) (⟨.operator, t, n⟩ :: ws)
  | group {n : Nat} {around : List Construct} {ws : List Waiting} (t : Token)
      (h : Tracks (n + 1) around ws) :
      Tracks n (.group t.pos :: around) (⟨.group, t, n⟩ :: ws)

namespace Tracks

variable {n p : Nat} {around outer : List Construct} {ws : List Waiting} {t : Token}

theorem le_inside (h : Tracks n around ws) : ∀ w ∈ ws, n ≤ w.inside := by
  induction h with
  | nil => simp
  | signed sign t _ ih => simpa using ih
  | joined left ht hhead _ ih => simpa using ih
  | group t _ ih =>
    intro w hw
    rcases List.mem_cons.mp hw with rfl | hw
    · exact Nat.le_refl _
    · exact Nat.le_of_succ_le (ih w hw)

/-- Behind an opening parenthesis, one more group is inside. -/
theorem opened (h : Tracks n around ws) :
    Tracks (n + 1) around (ws.map fun w => { w with inside := w.inside + 1 }) := by
  induction h with
  | nil n => exact .nil _
  | signed sign t _ ih => exact .signed sign t ih
  | joined left ht hhead _ ih => exact .joined left ht hhead ih
  | group t _ ih => exact .group t ih

/-- Behind a closing parenthesis, one group less is inside. -/
theorem closed (h : Tracks (n + 1) around ws) :
    Tracks n around (ws.filterMap Waiting.close) := by
  generalize hm : n + 1 = m at h
  induction h generalizing n with
  | nil => exact .nil n
  | signed sign t _ ih =>
    subst hm
    exact .signed sign t (ih rfl)
  | joined left ht hhead _ ih =>
    subst hm
    exact .joined left ht hhead (ih rfl)
  | group t _ ih =>
    subst hm
    exact .group t (ih rfl)

/-- What is around an open group stays when an operand ends. -/
theorem filterMap_settle (h : Tracks (n + 1) around ws) : ws.filterMap (Waiting.settle p) = ws := by
  have hstay : ∀ w ∈ ws, w.settle p = some w := by
    intro w hw
    have hle := h.le_inside w hw
    rw [Waiting.settle, if_neg (by omega)]
  rw [List.filterMap_congr hstay, List.filterMap_some]

/-- What an operator or the end of an operand settles is over. -/
theorem settled (h : Tracks 0 around ws) (hp : 1 ≤ p) (hthree : p ≤ 3) :
    Tracks 0 (unsettled p around) (ws.filterMap (Waiting.settle p)) := by
  generalize hn : 0 = n at h
  induction h with
  | nil => exact .nil _
  | signed sign t _ ih =>
    subst hn
    rw [unsettled_cons_of_le hthree, List.filterMap_cons_none]
    · exact ih rfl
    · simp [Waiting.settle, Waiting.strength, hthree]
  | @joined n around ws t op left ht hhead _ ih =>
    subst hn
    by_cases hop : p ≤ op.priority
    · rw [unsettled_cons_of_le hop, List.filterMap_cons_none]
      · exact ih rfl
      · simp [Waiting.settle, Waiting.strength, ht, hop]
    · rw [unsettled_cons_of_lt (Nat.lt_of_not_le hop), List.filterMap_cons_some (b := ⟨_, _, _⟩)]
      · -- what follows is weaker still
        have hself : unsettled p around = around :=
          unsettled_eq_self fun k hk => Nat.lt_of_lt_of_le (hhead k hk) (by omega)
        exact .joined left ht hhead (hself ▸ ih rfl)
      · simp [Waiting.settle, Waiting.strength, ht, hop]
  | @group n around ws t h _ =>
    subst hn
    -- all that follows stands around this group
    rw [unsettled_cons_of_lt (show (Construct.group t.pos).strength < p from hp),
      List.filterMap_cons_some (b := ⟨.group, t, 0⟩), h.filterMap_settle]
    · exact .group t h
    · rw [Waiting.settle, if_neg]
      rintro ⟨-, hle⟩
      exact absurd hle (by simp only [Waiting.strength]; omega)

/-- Up to the innermost group, everything but that group waits inside it. -/
theorem exists_group {offset : Nat} (h : Tracks n around ws)
    (hgroup : unsettled 1 around = .group offset :: outer) :
    ∃ inner w rest, ws = inner ++ w :: rest ∧ (∀ v ∈ inner, v.role ≠ .group) ∧ w.role = .group ∧
      (∀ v ∈ inner ++ [w], v.inside = n) ∧ Tracks (n + 1) outer rest := by
  induction h with
  | nil => cases hgroup
  | signed sign t _ ih =>
    rw [unsettled_cons_of_le (by simp [Construct.strength])] at hgroup
    obtain ⟨inner, w, rest, rfl, hinner, hw, hinside, hrest⟩ := ih hgroup
    exact ⟨_ :: inner, w, rest, rfl, by simpa using hinner, hw, by simpa using hinside, hrest⟩
  | @joined n around ws t op left ht hhead _ ih =>
    rw [unsettled_cons_of_le op.one_le_priority] at hgroup
    obtain ⟨inner, w, rest, rfl, hinner, hw, hinside, hrest⟩ := ih hgroup
    exact ⟨_ :: inner, w, rest, rfl, by simpa using hinner, hw, by simpa using hinside, hrest⟩
  | @group n around ws t h _ =>
    rw [unsettled_cons_of_lt (by simp [Construct.strength])] at hgroup
    cases hgroup
    exact ⟨[], ⟨.group, t, n⟩, ws, rfl, by simp, rfl, by simp, h⟩

/-- A closing parenthesis ends the innermost group and everything inside it. -/
theorem closing {offset : Nat} (h : Tracks 0 around ws)
    (hgroup : unsettled 1 around = .group offset :: outer) :
    Tracks 0 outer (ws.filterMap Waiting.close) := by
  obtain ⟨inner, w, rest, rfl, -, -, hinside, hrest⟩ := h.exists_group hgroup
  have hended : (inner ++ [w]).filterMap Waiting.close = [] := by
    rw [List.filterMap_eq_nil_iff]
    intro v hv
    rw [Waiting.close, if_pos (hinside v hv)]
  rw [List.append_cons, List.filterMap_append, hended, List.nil_append]
  exact hrest.closed

end Tracks

/-! ## Token by token -/

namespace Partial

/-- Whether an operand has just been read. -/
def behind : Partial → Bool
  | awaiting _ => false
  | holding _ _ => true

/-- The constructs that wait. The signs in front of an operand that was read do not. -/
def unfinished : Partial → List Construct
  | awaiting around => around
  | holding _ around => unsettled 3 around

variable {limit : Nat} {p p' : Partial} {t : Token} {ts : List Token} {ws : List Waiting}

/-- Where an operand must follow, a number leads on, and so do a group and a sign. -/
theorem next_awaiting {around : List Construct} (h : (awaiting around).next t = some p') :
    (t.isNumber = true ∧ ∃ x, p' = holding (.literal x) around) ∨
    (t.isSymbol "(" = true ∧ p' = awaiting (.group t.pos :: around)) ∨
    ∃ sign : Sign, t.isSymbol sign.text = true ∧
      p' = awaiting (.signed sign t.pos :: around) := by
  simp only [next] at h
  split at h
  · rename_i hnum
    split at h
    · cases h
      exact .inl ⟨hnum, _, rfl⟩
    · cases h
  · split at h
    · rename_i hopen
      cases h
      exact .inr (.inl ⟨hopen, rfl⟩)
    · split at h
      · rename_i sign hsign
        cases h
        exact .inr (.inr ⟨sign, Token.sign?_eq_some.mp hsign, rfl⟩)
      · cases h

/-- Behind an operand, an operator leads on, and so does the end of a group. -/
theorem next_holding {e : Expr} {around : List Construct}
    (h : (holding e around).next t = some p') :
    (∃ (op : Operator) (left : Expr), t.isSymbol op.text = true ∧
      p' = awaiting (.joined op left :: unsettled op.priority around)) ∨
    (t.isSymbol ")" = true ∧ ∃ offset outer e', unsettled 1 around = .group offset :: outer ∧
      p' = holding e' outer) := by
  simp only [next] at h
  split at h
  · rename_i op hop
    cases h
    rw [settle_snd]
    exact .inl ⟨op, _, Token.operator?_eq_some.mp hop, rfl⟩
  · split at h
    · rename_i hclose
      split at h
      · rename_i e' offset outer hsettle
        cases h
        refine .inr ⟨hclose, offset, outer, e', ?_, rfl⟩
        rw [← settle_snd 1 e around, hsettle]
      · cases h
    · cases h

/-- The token that leads on tells whether an operand has been read. -/
theorem behind_next (h : p.next t = some p') : p'.behind = t.endsOperand := by
  cases p with
  | awaiting around =>
    obtain ⟨hnum, x, rfl⟩ | ⟨hopen, rfl⟩ | ⟨sign, hsign, rfl⟩ := next_awaiting h
    · simp [behind, Token.endsOperand, hnum]
    · rw [Token.endsOperand_of_isSymbol hopen (by decide), behind]
    · rw [Token.endsOperand_of_isSymbol hsign (by cases sign <;> decide), behind]
  | holding e around =>
    obtain ⟨op, left, hop, rfl⟩ | ⟨hclose, offset, outer, e', -, rfl⟩ := next_holding h
    · rw [Token.endsOperand_of_isSymbol hop (by cases op <;> decide), behind]
    · simp [behind, Token.endsOperand, hclose]

/-- **One token**: what it begins waits, and of what waited before, all that it does not end. -/
theorem tracks_next (hp : Tracks 0 p.unfinished ws) (h : p.next t = some p') :
    Tracks 0 p'.unfinished (begun p.behind t ++ ws.filterMap (Waiting.after p.behind t)) := by
  cases p with
  | awaiting around =>
    replace hp : Tracks 0 around ws := hp
    obtain ⟨hnum, x, rfl⟩ | ⟨hopen, rfl⟩ | ⟨sign, hsign, rfl⟩ := next_awaiting h
    · rw [begun_of_endsOperand (by simp [Token.endsOperand, hnum]), Waiting.after_number hnum]
      exact hp.settled (by omega) (Nat.le_refl 3)
    · rw [begun_group hopen, Waiting.after_group hopen, List.filterMap_eq_map]
      exact .group t hp.opened
    · rw [behind, begun_sign hsign, Waiting.after_sign hsign, List.filterMap_some]
      exact .signed sign t hp
  | holding e around =>
    replace hp : Tracks 0 (unsettled 3 around) ws := hp
    obtain ⟨op, left, hop, rfl⟩ | ⟨hclose, offset, outer, e', hgroup, rfl⟩ := next_holding h
    · have hpriority := Token.priority_of_isSymbol hop
      have hthree : op.priority ≤ 3 := Nat.le_succ_of_le op.priority_le_two
      have hsettled := hp.settled op.one_le_priority hthree
      rw [unsettled_unsettled hthree] at hsettled
      rw [behind, begun_operator hop, Waiting.after_operator hop]
      exact .joined left hpriority (unsettled_head_lt _ _) (hpriority ▸ hsettled)
    · -- the group is closed, and then it is an operand of what stands around it
      rw [← unsettled_unsettled (show 1 ≤ 3 by decide)] at hgroup
      rw [begun_of_endsOperand (by simp [Token.endsOperand, hclose]),
        Waiting.after_closing hclose, ← List.filterMap_filterMap]
      exact (hp.closing hgroup).settled (by omega) (Nat.le_refl 3)

/-- What waits behind tokens is what they began and did not end. -/
theorem Reaches.tracks_append (h : Reaches limit p ts p') (hp : Tracks 0 p.unfinished ws) :
    Tracks 0 p'.unfinished
      (waitingFrom p.behind ts ++ ws.filterMap (Waiting.afterAll p.behind ts)) := by
  -- the step is for the first token, so what waited before the tokens is kept general
  induction h generalizing ws with
  | nil p =>
    have hall : ws.filterMap (Waiting.afterAll p.behind []) = ws := List.filterMap_some
    rwa [hall]
  | cons hd hn _ ih =>
    have hstep := ih (tracks_next hp hn)
    rw [behind_next hn] at hstep
    rw [List.filterMap_append, List.filterMap_filterMap, ← List.append_assoc] at hstep
    exact hstep

/-- **The constructs that are open behind the tokens of a text are those that wait there.** -/
theorem Reaches.tracks (h : Reaches limit start ts p) : Tracks 0 p.unfinished (waiting ts) := by
  have hnone : Tracks 0 start.unfinished [] := .nil 0
  have htracks := h.tracks_append hnone
  rwa [List.filterMap_nil, List.append_nil] at htracks

end Partial

end Calculator
