import Calculator.Expr.Printer
import Calculator.Proofs.FixedPlaces
import Calculator.Proofs.Walk
import Calculator.Proofs.Writing

/-!
# A written tree is read again

A tree that is written and parsed comes back with its shape and its operators, each number rounded
to two places. A number with its sign bit set is written with a minus sign in front and comes back
as a signed operand, which holds together as tightly as the number did.

The induction on the tree carries one statement about texts, `Writes`: wherever the text of a phrase
stands, behind blanks and in front of something that closes it, the lexer reads from it tokens that
derive the tree, by the rule that belongs to the strength of the phrase.
-/

namespace Calculator

/-! ## Numbers -/

namespace Binary64

/-- The number without its sign. -/
def abs (x : Binary64) : Binary64 := .ofWord x.magnitude

/-- The number that is read where a number without sign was written with two places. -/
def reread (x : Binary64) : Binary64 :=
  match Descent.numberValue (x.fixedText 2 false) with
  | .ok y => y
  | .error _ => x

variable {x : Binary64}

theorem magnitude_lt (x : Binary64) : x.magnitude < 0x8000000000000000 := Nat.mod_lt _ (by decide)

theorem word_abs (x : Binary64) : x.abs.word = x.magnitude := by
  have h := magnitude_lt x
  simp only [abs, ofWord, word, UInt64.toNat_ofNat']
  omega

theorem magnitude_abs (x : Binary64) : x.abs.magnitude = x.magnitude := by
  rw [magnitude_eq, word_abs, Nat.mod_eq_of_lt (magnitude_lt x)]

theorem negative_abs (x : Binary64) : x.abs.negative = false := by
  have h := magnitude_lt x
  simp only [negative, word_abs, decide_eq_false_iff_not]
  omega

theorem isFinite_abs (x : Binary64) : x.abs.isFinite = x.isFinite := by
  rw [isFinite, magnitude_abs, isFinite]

theorem abs_of_not_negative (h : x.negative = false) : x.abs = x := by
  have hword : x.magnitude = x.word := Nat.mod_eq_of_lt (by simpa [negative] using h)
  rw [abs, hword]
  simp [ofWord, word]

/-- The digits do not depend on the sign. -/
theorem unsignedText_abs (places : Nat) (grouped : Bool) :
    x.abs.unsignedText places grouped = x.unsignedText places grouped := by
  have hfraction : x.abs.fraction = x.fraction := by
    simp only [fraction_eq, word_abs, magnitude_eq]
    omega
  have hexponent : x.abs.exponent = x.exponent := by rw [exponent, magnitude_abs, exponent]
  have hunits : x.abs.units = x.units := by
    rw [units, units, significand, significand, scale, scale, hexponent, hfraction]
  simp only [unsignedText, scaledBy, hunits]

theorem isNaN_eq_false (h : x.isFinite = true) : x.isNaN = false := by
  have hm : x.magnitude < infinityWord := of_decide_eq_true h
  exact decide_eq_false (Nat.lt_asymm hm)

theorem fixedText_of_isFinite (h : x.isFinite = true) (places : Nat) (grouped : Bool) :
    (x.fixedText places grouped).toList =
      if x.negative then '-' :: x.unsignedText places grouped
      else x.unsignedText places grouped := by
  simp [fixedText, isNaN_eq_false h, h]

theorem fixedText_abs (h : x.isFinite = true) (places : Nat) (grouped : Bool) :
    x.abs.fixedText places grouped = String.ofList (x.unsignedText places grouped) := by
  have habs : x.abs.isFinite = true := by rw [isFinite_abs, h]
  rw [← String.toList_inj, fixedText_of_isFinite habs, negative_abs, unsignedText_abs]
  simp

/-- What is written of a finite number without its sign is read again. -/
theorem numberValue_abs (h : x.isFinite = true) :
    Descent.numberValue (x.abs.fixedText 2 false) = .ok x.abs.reread := by
  obtain ⟨y, hy⟩ := exists_numberValue h
  rw [← fixedText_abs h] at hy
  rw [reread, hy]

end Binary64

/-! ## Trees -/

namespace Expr

/-- The numbers of a tree, from left to right. -/
def literals : Expr → List Binary64
  | literal x => [x]
  | unary _ e => e.literals
  | binary _ l r => l.literals ++ r.literals
  | foreign _ => []

/-- The tree with every number replaced. -/
def mapLiterals (f : Binary64 → Binary64) : Expr → Expr
  | literal x => literal (f x)
  | unary m e => unary m (e.mapLiterals f)
  | binary m l r => binary m (l.mapLiterals f) (r.mapLiterals f)
  | foreign kind => foreign kind

/-- The tree that is read where a tree was written. -/
def reread : Expr → Expr
  | literal x =>
    if x.negative then unary (.known .minus) (literal x.abs.reread) else literal x.reread
  | unary m e => unary m e.reread
  | binary m l r => binary m l.reread r.reread
  | foreign kind => foreign kind

theorem reread_eq_mapLiterals {e : Expr} (h : ∀ x ∈ e.literals, x.negative = false) :
    e.reread = e.mapLiterals Binary64.reread := by
  induction e with
  | literal x => simp [reread, mapLiterals, h x (by simp [literals])]
  | unary m e ih => rw [reread, mapLiterals, ih h]
  | binary m l r ihl ihr =>
    simp only [literals, List.mem_append] at h
    rw [reread, mapLiterals, ihl fun x hx => h x (.inl hx), ihr fun x hx => h x (.inr hx)]
  | foreign kind => rfl

theorem mapLiterals_eq_self {f : Binary64 → Binary64} {e : Expr} (h : ∀ x ∈ e.literals, f x = x) :
    e.mapLiterals f = e := by
  induction e with
  | literal x => rw [mapLiterals, h x (by simp [literals])]
  | unary m e ih => rw [mapLiterals, ih h]
  | binary m l r ihl ihr =>
    simp only [literals, List.mem_append] at h
    rw [mapLiterals, ihl fun x hx => h x (.inl hx), ihr fun x hx => h x (.inr hx)]
  | foreign kind => rfl

end Expr

/-! ## Phrases -/

namespace Phrase

/-- The text of a phrase at a place that asks for a strength. -/
def placed (p : Phrase) (strength : Nat) : String :=
  if p.strength < strength then p.enclosed else p.text

theorem toList_enclosed (p : Phrase) : p.enclosed.toList = '(' :: p.text.toList ++ [')'] := by
  simp [enclosed, String.toList_append]

theorem toList_unary (sign : Sign) (p : Phrase) :
    (unary sign p).text.toList = sign.text.toList ++ (p.placed atomStrength).toList := by
  show (sign.text ++ p.placed atomStrength).toList = _
  rw [String.toList_append]

/-- The right operand stands at a place of greater strength than the left one. -/
theorem toList_binary (op : Operator) (l r : Phrase) :
    (binary op l r).text.toList = (l.placed op.priority).toList ++
      ' ' :: (op.text.toList ++ ' ' :: (r.placed (op.priority + 1)).toList) := by
  have htext : (binary op l r).text =
      l.placed op.priority ++ " " ++ op.text ++ " " ++ r.placed (op.priority + 1) := by
    simp only [binary, around, placed, Nat.lt_succ_iff]
  simp [htext, String.toList_append]

/-- A phrase whose text writes a tree, at the strength that it claims. -/
def Holds (p : Phrase) (e : Expr) : Prop := Writes p.text.toList (.ofStrength p.strength) e

variable {p l r : Phrase} {e e' : Expr}

/-- A phrase is put in parentheses unless its strength suffices. -/
theorem Holds.placed (h : p.Holds e) (strength : Nat) :
    Writes (p.placed strength).toList (.ofStrength strength) e := by
  rw [Phrase.placed]
  by_cases hs : p.strength < strength
  · have hsum : Writes p.text.toList .sum e := Writes.weaken (Nat.zero_le _) h
    rw [if_pos hs, toList_enclosed]
    exact hsum.group.operand.ofSigned _
  · rw [if_neg hs]
    exact Writes.weaken (Nat.le_of_not_lt hs) h

/-- A number holds as tightly with its minus sign as without. -/
theorem holds_literal {x : Binary64} (h : x.isFinite = true) :
    (Phrase.literal x).Holds (Expr.literal x).reread := by
  have hvalue := Binary64.numberValue_abs h
  rw [Binary64.fixedText_abs h] at hvalue
  have hnumber : Writes (x.unsignedText 2 false) .primary (.literal x.abs.reread) :=
    writes_number (splitPlaces_ne_nil _ _)
      (fun d hd => isDigit_of_mem_splitPlaces _ _ (.inl hd))
      (fun d hd => isDigit_of_mem_splitPlaces _ _ (.inr hd)) hvalue
  have htext := Binary64.fixedText_of_isFinite h 2 false
  show Writes (x.fixedText 2 false).toList .signed _
  cases hneg : x.negative with
  | true =>
    rw [htext, hneg, if_pos rfl, Expr.reread, hneg, if_pos rfl]
    exact hnumber.operand.sign .minus
  | false =>
    rw [htext, hneg, if_neg (by decide), Expr.reread, hneg, if_neg (by decide)]
    rw [Binary64.abs_of_not_negative hneg] at hnumber
    exact hnumber.operand

theorem Holds.unary (h : p.Holds e) (sign : Sign) :
    (Phrase.unary sign p).Holds (.unary (.known sign) e) := by
  show Writes (Phrase.unary sign p).text.toList .signed _
  rw [toList_unary]
  exact Writes.sign (h.placed atomStrength) sign

theorem Holds.binary (hl : l.Holds e) (hr : r.Holds e') (op : Operator) :
    (Phrase.binary op l r).Holds (.binary (.known op) e e') := by
  show Writes (Phrase.binary op l r).text.toList (.ofStrength op.priority) _
  rw [toList_binary]
  exact Writes.join op (hl.placed _) (hr.placed _)

end Phrase

/-- **Trees are written from their numbers up.** What holds of the phrases of numbers of some kind,
and of a phrase whenever it holds of the phrases of its operands, holds of the phrase of every tree
of such numbers. -/
theorem Expr.exists_phrase_of {P : Binary64 → Prop} {Q : Phrase → Expr → Prop}
    (literal : ∀ x : Binary64, P x → Q (.literal x) (.literal x))
    (unary : ∀ sign p e, Q p e → Q (.unary sign p) (.unary (.known sign) e))
    (binary : ∀ op l r e e', Q l e → Q r e' → Q (.binary op l r) (.binary (.known op) e e'))
    {e : Expr} (hs : e.Supported) (hf : ∀ x ∈ e.literals, P x) :
    ∃ p, e.fold .phrase = .ok p ∧ Q p e := by
  induction e with
  | literal x => exact ⟨.literal x, rfl, literal x (hf x (by simp [literals]))⟩
  | unary m e ih =>
    cases m with
    | other text => exact absurd hs (by simp [Supported])
    | known sign =>
      obtain ⟨p, hp, hold⟩ := ih hs hf
      exact ⟨.unary sign p, by rw [fold, hp]; rfl, unary sign p e hold⟩
  | binary m l r ihl ihr =>
    cases m with
    | other text => exact absurd hs (by simp [Supported])
    | known op =>
      simp only [literals, List.mem_append] at hf
      obtain ⟨p, hp, hold⟩ := ihl hs.1 fun x hx => hf x (.inl hx)
      obtain ⟨q, hq, hold'⟩ := ihr hs.2 fun x hx => hf x (.inr hx)
      exact ⟨.binary op p q, by rw [fold, hp, hq]; rfl, binary op p q l r hold hold'⟩
  | foreign kind => exact absurd hs (by simp [Supported])

/-- Every tree of operators and finite numbers is written as a phrase that holds. -/
theorem Expr.exists_phrase {e : Expr} (hs : e.Supported)
    (hf : ∀ x ∈ e.literals, x.isFinite = true) :
    ∃ p, e.fold .phrase = .ok p ∧ p.Holds e.reread :=
  exists_phrase_of (P := fun x => x.isFinite = true) (Q := fun p e => p.Holds e.reread)
    (fun _ hx => Phrase.holds_literal hx)
    (fun sign _ _ h => h.unary sign) (fun op _ _ _ _ hl hr => hl.binary hr op) hs hf

theorem Expr.format_of_phrase {e : Expr} {p : Phrase} (h : e.fold .phrase = .ok p) :
    e.format = .ok p.text := by
  rw [format, walk_eq_fold, h]
  rfl

/-- **Parsing undoes formatting.** A tree of operators and finite numbers has a text. If the text is
not nested too deeply, it is parsed to the same tree with each number read back from its two places,
a number with its sign bit set as a minus sign and the number without it. So without such numbers
only numbers change, and if they are their own roundings nothing does. -/
theorem parse_format (e : Expr) (hs : e.Supported) (hf : ∀ x ∈ e.literals, x.isFinite = true) :
    ∃ text, e.format = .ok text ∧
      (parse (.text text.toList) ≠ .error .tooDeep →
        parse (.text text.toList) = .ok e.reread) ∧
      (∀ x ∈ e.literals,
        Descent.numberValue (x.abs.fixedText 2 false) = .ok x.abs.reread) ∧
      ((∀ x ∈ e.literals, x.negative = false) →
        e.reread = e.mapLiterals Binary64.reread ∧
        ((∀ x ∈ e.literals, x.reread = x) →
          e.reread = e ∧ ∀ ops, e.reread.evaluate ops = e.evaluate ops)) := by
  obtain ⟨p, hp, hold⟩ := e.exists_phrase hs hf
  refine ⟨p.text, ?_, ?_, fun x hx => Binary64.numberValue_abs (hf x hx), ?_⟩
  · rw [Expr.format, Expr.walk_eq_fold, hp]
    rfl
  · exact (Writes.weaken (Nat.zero_le _) hold).parse_eq
  · intro hpos
    have hmap := Expr.reread_eq_mapLiterals hpos
    refine ⟨hmap, fun hsame => ?_⟩
    have heq : e.reread = e := by rw [hmap, Expr.mapLiterals_eq_self hsame]
    exact ⟨heq, fun ops => by rw [heq]⟩

/-- `1.50 - (-0.25 + 2.00)`: the sum keeps its parentheses, and its first number comes back as a
signed operand. -/
theorem parse_format_difference :
    ∃ text, (Expr.binary (.known .sub) (.literal ⟨0x3FF8000000000000⟩)
        (.binary (.known .add) (.literal ⟨0xBFD0000000000000⟩)
          (.literal ⟨0x4000000000000000⟩))).format = .ok text ∧
      parse (.text text.toList) = .ok (.binary (.known .sub) (.literal ⟨0x3FF8000000000000⟩)
        (.binary (.known .add) (.unary (.known .minus) (.literal ⟨0x3FD0000000000000⟩))
          (.literal ⟨0x4000000000000000⟩))) := by
  obtain ⟨text, hformat, hparse, -⟩ := parse_format
    (.binary (.known .sub) (.literal ⟨0x3FF8000000000000⟩)
      (.binary (.known .add) (.literal ⟨0xBFD0000000000000⟩) (.literal ⟨0x4000000000000000⟩)))
    ⟨trivial, trivial, trivial⟩ (by decide +kernel)
  refine ⟨text, hformat, ?_⟩
  have htext : text = "1.50 - (-0.25 + 2.00)" := by
    rw [Expr.format, Expr.walk_eq_fold] at hformat
    have hfold : (Expr.fold .phrase (.binary (.known .sub) (.literal ⟨0x3FF8000000000000⟩)
        (.binary (.known .add) (.literal ⟨0xBFD0000000000000⟩)
          (.literal ⟨0x4000000000000000⟩)))).map Phrase.text =
        .ok "1.50 - (-0.25 + 2.00)" := by decide +kernel
    exact Except.ok.inj (hformat.symm.trans hfold)
  rw [hparse (by rw [htext]; decide +kernel)]
  decide +kernel

end Calculator
