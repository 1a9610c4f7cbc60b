import Calculator.Proofs.Tiling
import Mathlib.Computability.Language

/-!
# Each token is the longest match

The lexical grammar says which texts are numbers and which are names, without saying how they are
scanned. The scanner decides part by part, and looks at one character more each time; still it never
stops short of a longer number. `Greedy` says so of a scanner: of a text that begins with a member
of a language it takes at least that member. It carries over to one scanner behind another, if the
first one stops wherever the second one has something to take.
-/

namespace Calculator

open scoped Computability

namespace Lexer

open Reader (firstIf)

/-! ## The lexical grammar -/

/-- The texts that are one character of a class. -/
def oneOf (p : Char → Bool) : Language Char := {cs | ∃ c, p c = true ∧ cs = [c]}

/-- Digits: `[0-9]*`. -/
def digitTexts : Language Char := (oneOf Char.isDigit)∗

/-- A point and digits: `.[0-9]*`. -/
def fractionTexts : Language Char := oneOf (fun c => c = '.') * digitTexts

/-- An exponent: `[eE][+-]?[0-9]*`. -/
def exponentTexts : Language Char :=
  oneOf (fun c => c = 'e' || c = 'E') * ((1 + oneOf fun c => c = '+' || c = '-') * digitTexts)

/-- Numbers that begin with a digit: `[0-9]+(.[0-9]*)?([eE][+-]?[0-9]*)?`. -/
def wholeNumberTexts : Language Char :=
  oneOf Char.isDigit * digitTexts * ((1 + fractionTexts) * (1 + exponentTexts))

/-- Numbers that begin with a point: `.[0-9]+([eE][+-]?[0-9]*)?`. -/
def pointNumberTexts : Language Char :=
  oneOf (fun c => c = '.') * (oneOf Char.isDigit * digitTexts * (1 + exponentTexts))

/-- Numbers. -/
def numberTexts : Language Char := wholeNumberTexts + pointNumberTexts

/-- Alphanumeric characters and underscores. -/
def nameTexts : Language Char := (oneOf fun c => Text.isAlphanumeric c || c = '_')∗

/-- The longest text of a language with which `rest` begins. -/
structure Longest (l : Language Char) (rest cs : List Char) : Prop where
  begins : cs <+: rest
  mem : cs ∈ l
  longest : ∀ ds, ds <+: rest → ds ∈ l → ds.length ≤ cs.length

/-- A text begins with a digit, or with a point and a digit behind it. -/
def BeginsNumber (rest : List Char) : Prop :=
  (∃ d cs, rest = d :: cs ∧ d.isDigit = true) ∨
    ∃ d cs, rest = '.' :: d :: cs ∧ d.isDigit = true

/-- A text begins with a letter or an underscore. -/
def BeginsName (rest : List Char) : Prop :=
  ∃ c cs, rest = c :: cs ∧ (Text.isLetter c = true ∨ c = '_')

section Languages

variable {p : Char → Bool} {l : Language Char} {c : Char} {cs : List Char}

theorem mem_kstar_oneOf : cs ∈ (oneOf p)∗ ↔ ∀ c ∈ cs, p c = true := by
  rw [Language.mem_kstar]
  constructor
  · rintro ⟨texts, rfl, htexts⟩ c hc
    obtain ⟨text, htext, hmem⟩ := List.mem_flatten.mp hc
    obtain ⟨d, hd, rfl⟩ := htexts text htext
    rwa [List.mem_singleton.mp hmem]
  · intro h
    induction cs with
    | nil => exact ⟨[], rfl, by simp⟩
    | cons c cs ih =>
      obtain ⟨hc, hcs⟩ := List.forall_mem_cons.mp h
      obtain ⟨texts, rfl, htexts⟩ := ih hcs
      exact ⟨[c] :: texts, rfl, List.forall_mem_cons.mpr ⟨⟨c, hc, rfl⟩, htexts⟩⟩

theorem mem_oneOf_mul : cs ∈ oneOf p * l ↔ ∃ c ds, p c = true ∧ ds ∈ l ∧ cs = c :: ds := by
  rw [Language.mem_mul]
  constructor
  · rintro ⟨_, ⟨c, hc, rfl⟩, ds, hds, rfl⟩
    exact ⟨c, ds, hc, hds, rfl⟩
  · rintro ⟨c, ds, hc, hds, rfl⟩
    exact ⟨[c], ⟨c, hc, rfl⟩, ds, hds, rfl⟩

theorem mem_optional : cs ∈ 1 + l ↔ cs = [] ∨ cs ∈ l := by
  rw [Language.mem_add, Language.mem_one]

/-- At least one character of a class. -/
theorem mem_oneOf_mul_kstar : cs ∈ oneOf p * (oneOf p)∗ ↔ cs ≠ [] ∧ ∀ c ∈ cs, p c = true := by
  rw [mem_oneOf_mul]
  constructor
  · rintro ⟨c, ds, hc, hds, rfl⟩
    exact ⟨List.cons_ne_nil c ds, List.forall_mem_cons.mpr ⟨hc, mem_kstar_oneOf.mp hds⟩⟩
  · rintro ⟨hne, hall⟩
    obtain ⟨c, ds, rfl⟩ := List.exists_cons_of_ne_nil hne
    obtain ⟨hc, hds⟩ := List.forall_mem_cons.mp hall
    exact ⟨c, ds, hc, mem_kstar_oneOf.mpr hds, rfl⟩

/-- Where at least one digit stands, digits stand. -/
theorem mem_digits_mul (h : cs ∈ oneOf Char.isDigit * digitTexts * l) : cs ∈ digitTexts * l := by
  obtain ⟨a, ha, b, hb, rfl⟩ := Language.mem_mul.mp h
  exact Language.append_mem_mul (mem_kstar_oneOf.mpr (mem_oneOf_mul_kstar.mp ha).2) hb

end Languages

/-! ## Greedy scanners -/

/-- What a scanner takes is in a language, and of a text that begins with a member of the language
it takes at least that member. -/
structure Greedy (scan : List Char → List Char) (l : Language Char) : Prop where
  mem : ∀ cs, scan cs ∈ l
  covers : ∀ ds ∈ l, ∀ rest, ds <+: scan (ds ++ rest)

/-- A scanner takes a text of `l`, and no more, where something of `l'` stands behind it. -/
def StopsBefore (scan : List Char → List Char) (l l' : Language Char) : Prop :=
  ∀ a ∈ l, ∀ b ∈ l', b ≠ [] → ∀ rest, scan (a ++ (b ++ rest)) = a

section Greedy

variable {p : Char → Bool} {scan scan' : List Char → List Char} {l l' : Language Char}

theorem greedy_takeWhile (p : Char → Bool) : Greedy (List.takeWhile p) (oneOf p)∗ where
  mem cs := mem_kstar_oneOf.mpr fun _ hc => List.mem_takeWhile_imp hc
  covers ds hds rest := by
    rw [List.takeWhile_append_of_pos (mem_kstar_oneOf.mp hds)]
    exact List.prefix_append _ _

theorem greedy_firstIf (p : Char → Bool) : Greedy (firstIf p) (1 + oneOf p) where
  mem cs := by
    cases cs with
    | nil => exact mem_optional.mpr (.inl rfl)
    | cons c cs =>
      by_cases hc : p c = true
      · exact mem_optional.mpr (.inr ⟨c, hc, by simp [firstIf, hc]⟩)
      · exact mem_optional.mpr (.inl (by simp [firstIf, hc]))
  covers ds hds rest := by
    rcases mem_optional.mp hds with rfl | ⟨c, hc, rfl⟩
    · exact List.nil_prefix
    · simp [firstIf, hc]

/-- One scanner behind another. -/
theorem Greedy.andThen (h : Greedy scan l) (h' : Greedy scan' l') (hstop : StopsBefore scan l l') :
    Greedy (fun cs => scan cs ++ scan' (cs.drop (scan cs).length)) (l * l') where
  mem cs := Language.append_mem_mul (h.mem cs) (h'.mem _)
  covers ds hds rest := by
    obtain ⟨a, ha, b, hb, rfl⟩ := Language.mem_mul.mp hds
    by_cases hne : b = []
    · -- the first scanner may go on, over what the second one would have left
      rw [hne, List.append_nil]
      exact (h.covers a ha rest).trans (List.prefix_append _ _)
    · rw [List.append_assoc, hstop a ha b hb hne rest, List.drop_left]
      exact (List.prefix_append_right_inj a).mpr (h'.covers b hb rest)

/-- A character, and a scanner behind it, unless the character is not there. -/
theorem Greedy.optional (h : Greedy scan l) (p : Char → Bool) :
    Greedy (fun cs => if (firstIf p cs).isEmpty then [] else
      firstIf p cs ++ scan (cs.drop (firstIf p cs).length)) (1 + oneOf p * l) where
  mem cs := by
    cases cs with
    | nil => exact mem_optional.mpr (.inl rfl)
    | cons c cs =>
      by_cases hc : p c = true
      · refine mem_optional.mpr (.inr (mem_oneOf_mul.mpr ⟨c, scan cs, hc, h.mem cs, ?_⟩))
        simp [firstIf, hc]
      · exact mem_optional.mpr (.inl (by simp [firstIf, hc]))
  covers ds hds rest := by
    rcases mem_optional.mp hds with rfl | hds
    · exact List.nil_prefix
    · obtain ⟨c, es, hc, hes, rfl⟩ := mem_oneOf_mul.mp hds
      simpa [firstIf, hc] using h.covers es hes rest

/-- Characters of a class end before one of another class. -/
theorem takeWhile_append_cons {cs ds : List Char} {c : Char} (hcs : ∀ d ∈ cs, p d = true)
    (hc : p c = false) : (cs ++ c :: ds).takeWhile p = cs := by
  rw [List.takeWhile_append_of_pos hcs, List.takeWhile_cons_of_neg (by simp [hc]),
    List.append_nil]

/-- What an optional text begins with. -/
theorem exists_of_mem_optional {b : List Char} (hb : b ∈ 1 + oneOf p * l) (hne : b ≠ []) :
    ∃ c cs, b = c :: cs ∧ p c = true := by
  obtain ⟨c, cs, hc, -, rfl⟩ := mem_oneOf_mul.mp ((mem_optional.mp hb).resolve_left hne)
  exact ⟨c, cs, rfl, hc⟩

end Greedy

/-! ## The scanners of numbers -/

/-- No digit is a point, the mark of an exponent or a sign. -/
theorem ne_of_isDigit {d : Char} (h : d.isDigit = true) :
    d ≠ '.' ∧ d ≠ 'e' ∧ d ≠ 'E' ∧ d ≠ '+' ∧ d ≠ '-' := by
  refine ⟨?_, ?_, ?_, ?_, ?_⟩ <;> (rintro rfl; revert h; decide)

theorem greedy_fractionOf : Greedy fractionOf (1 + fractionTexts) :=
  (greedy_takeWhile Char.isDigit).optional fun c => c = '.'

theorem greedy_exponentOf : Greedy exponentOf (1 + exponentTexts) := by
  have hstop : StopsBefore (firstIf fun c => c = '+' || c = '-')
      (1 + oneOf fun c => c = '+' || c = '-') digitTexts := by
    intro a ha b hb hne rest
    rcases mem_optional.mp ha with rfl | ⟨c, hc, rfl⟩
    · obtain ⟨d, ds, rfl⟩ := List.exists_cons_of_ne_nil hne
      have hd : d.isDigit = true := mem_kstar_oneOf.mp hb d List.mem_cons_self
      simp [firstIf, ne_of_isDigit hd]
    · rw [List.cons_append, firstIf, if_pos hc]
  have hscan := ((greedy_firstIf _).andThen (greedy_takeWhile Char.isDigit) hstop).optional
    fun c => c = 'e' || c = 'E'
  refine ⟨fun cs => ?_, fun ds hds rest => ?_⟩
  · simpa only [exponentOf, exponentTexts, digitTexts, List.append_assoc] using hscan.mem cs
  · simpa only [exponentOf, List.append_assoc] using hscan.covers ds hds rest

/-- An exponent ends the fraction before it, or begins where a fraction could begin. -/
theorem stopsBefore_exponent : StopsBefore fractionOf (1 + fractionTexts) (1 + exponentTexts) := by
  intro a ha b hb hne rest
  obtain ⟨c, cs, rfl, hc⟩ := exists_of_mem_optional hb hne
  have hclass : c ≠ '.' ∧ c.isDigit = false := by
    rcases (by simpa using hc : c = 'e' ∨ c = 'E') with rfl | rfl <;> decide
  rcases mem_optional.mp ha with rfl | ha
  · simp [fractionOf, firstIf, hclass]
  · obtain ⟨d, ds, hd, hds, rfl⟩ := mem_oneOf_mul.mp ha
    have hdigits : (ds ++ c :: (cs ++ rest)).takeWhile Char.isDigit = ds :=
      takeWhile_append_cons (mem_kstar_oneOf.mp hds) hclass.2
    simp [fractionOf, firstIf, hd, hdigits]

/-- A fraction and an exponent end the digits before them. -/
theorem stopsBefore_parts : StopsBefore (List.takeWhile Char.isDigit) digitTexts
    ((1 + fractionTexts) * (1 + exponentTexts)) := by
  intro a ha b hb hne rest
  have hall := mem_kstar_oneOf.mp ha
  obtain ⟨f, hf, e, he, rfl⟩ := Language.mem_mul.mp hb
  by_cases hnil : f = []
  · subst hnil
    obtain ⟨c, cs, rfl, hc⟩ := exists_of_mem_optional he hne
    refine takeWhile_append_cons hall ?_
    rcases (by simpa using hc : c = 'e' ∨ c = 'E') with rfl | rfl <;> decide
  · obtain ⟨c, cs, rfl, hc⟩ := exists_of_mem_optional hf hnil
    rw [decide_eq_true_eq] at hc
    subst hc
    exact takeWhile_append_cons hall (by decide)

theorem greedy_numberOf : Greedy (fun cs => (numberOf cs).2)
    (digitTexts * ((1 + fractionTexts) * (1 + exponentTexts))) := by
  have hscan := (greedy_takeWhile Char.isDigit).andThen
    (greedy_fractionOf.andThen greedy_exponentOf stopsBefore_exponent) stopsBefore_parts
  refine ⟨fun cs => ?_, fun ds hds rest => ?_⟩
  · simpa only [numberOf, digitTexts, List.append_assoc] using hscan.mem cs
  · simpa only [numberOf, List.append_assoc] using hscan.covers ds hds rest

/-- The digits behind a point, and the exponent. -/
theorem greedy_behindPoint :
    Greedy (fun cs => cs.takeWhile Char.isDigit ++
        exponentOf (cs.drop (cs.takeWhile Char.isDigit).length))
      (digitTexts * (1 + exponentTexts)) := by
  refine (greedy_takeWhile Char.isDigit).andThen greedy_exponentOf ?_
  intro a ha b hb hne rest
  have hparts : b ∈ (1 + fractionTexts) * (1 + exponentTexts) :=
    Language.append_mem_mul (mem_optional.mpr (.inl rfl)) hb
  exact stopsBefore_parts a ha b hparts hne rest

/-! ## Lexemes -/

variable {cs rest : List Char} {d : Char}

theorem lexeme_begins (cs : List Char) : (lexeme cs).2 <+: cs :=
  ⟨_, lexeme_append_drop cs⟩

/-- The lexeme of a text that begins with a digit. -/
theorem lexeme_of_isDigit (hd : d.isDigit = true) : lexeme (d :: cs) = numberOf (d :: cs) := by
  rw [lexeme, if_pos hd]

/-- The lexeme of a text that begins with a point and a digit. -/
theorem lexeme_of_point (hd : d.isDigit = true) :
    lexeme ('.' :: d :: cs) = (.decimal, pointNumberOf (d :: cs)) := by
  have hpoint : ('.' : Char).isDigit = false := by decide
  simp [lexeme, hpoint, hd]

/-- Digits that a text begins with are one at least. -/
theorem takeWhile_mem (hd : d.isDigit = true) :
    (d :: cs).takeWhile Char.isDigit ∈ oneOf Char.isDigit * digitTexts := by
  refine mem_oneOf_mul_kstar.mpr ⟨?_, fun _ hc => List.mem_takeWhile_imp hc⟩
  simp [hd]

theorem longest_of_isDigit (hd : d.isDigit = true) :
    Longest numberTexts (d :: cs) (numberOf (d :: cs)).2 where
  begins := by
    rw [← lexeme_of_isDigit hd]
    exact lexeme_begins _
  mem := by
    refine .inl ?_
    simp only [numberOf, List.append_assoc]
    exact Language.append_mem_mul (takeWhile_mem hd)
      (Language.append_mem_mul (greedy_fractionOf.mem _) (greedy_exponentOf.mem _))
  longest ds hds hmem := by
    obtain ⟨rest, hrest⟩ := hds
    rcases hmem with hmem | hmem
    · rw [← hrest]
      exact (greedy_numberOf.covers ds (mem_digits_mul hmem) rest).length_le
    · obtain ⟨c, es, hc, -, rfl⟩ := mem_oneOf_mul.mp hmem
      obtain ⟨rfl, -⟩ := List.cons.inj hrest
      exact absurd (of_decide_eq_true hc) (ne_of_isDigit hd).1

theorem longest_of_point (hd : d.isDigit = true) :
    Longest numberTexts ('.' :: d :: cs) (pointNumberOf (d :: cs)) where
  begins := by
    have hlexeme := lexeme_begins ('.' :: d :: cs)
    rwa [lexeme_of_point hd] at hlexeme
  mem := by
    refine .inr (mem_oneOf_mul.mpr ⟨'.', _, rfl, ?_, rfl⟩)
    exact Language.append_mem_mul (takeWhile_mem hd) (greedy_exponentOf.mem _)
  longest ds hds hmem := by
    obtain ⟨rest, hrest⟩ := hds
    rcases hmem with hmem | hmem
    · obtain ⟨a, ha, b, -, rfl⟩ := Language.mem_mul.mp hmem
      obtain ⟨c, es, hc, -, rfl⟩ := mem_oneOf_mul.mp ha
      obtain ⟨rfl, -⟩ := List.cons.inj hrest
      exact absurd rfl (ne_of_isDigit hc).1
    · obtain ⟨c, es, -, hes, rfl⟩ := mem_oneOf_mul.mp hmem
      obtain ⟨-, htail⟩ := List.cons.inj hrest
      rw [← htail]
      exact Nat.succ_le_succ (greedy_behindPoint.covers es (mem_digits_mul hes) rest).length_le

/-- A number is whole just if it consists of digits: a point or the mark of an exponent is none. -/
theorem numberOf_whole_iff (cs : List Char) :
    (numberOf cs).1 = .whole ↔ ∀ c ∈ (numberOf cs).2, c.isDigit = true := by
  have hdigits : ∀ c ∈ cs.takeWhile Char.isDigit, c.isDigit = true :=
    fun _ hc => List.mem_takeWhile_imp hc
  simp only [numberOf]
  generalize cs.takeWhile Char.isDigit = digits at hdigits
  have hf := greedy_fractionOf.mem (cs.drop digits.length)
  generalize fractionOf (cs.drop digits.length) = fraction at hf
  have he := greedy_exponentOf.mem ((cs.drop digits.length).drop fraction.length)
  generalize exponentOf ((cs.drop digits.length).drop fraction.length) = exponent at he
  by_cases hfnil : fraction = []
  · by_cases henil : exponent = []
    · simpa [hfnil, henil] using hdigits
    · obtain ⟨c, es, rfl, hc⟩ := exists_of_mem_optional he henil
      refine iff_of_false (by simp) fun hall => ?_
      have hc' := ne_of_isDigit (hall c (by simp))
      simp [hc'] at hc
  · obtain ⟨c, fs, rfl, hc⟩ := exists_of_mem_optional hf hfnil
    refine iff_of_false (by simp) fun hall => ?_
    exact (ne_of_isDigit (hall c (by simp))).1 (of_decide_eq_true hc)

/-- No name begins with a digit. -/
theorem startsName_of_isDigit (hd : d.isDigit = true) : startsName d = false := by
  have hall : ∀ n ∈ List.range' 48 10, startsName (Char.ofNat n) = false := by decide +kernel
  obtain ⟨hlow, hhigh⟩ := Char.isDigit_iff_toNat.mp hd
  simp only [Char.reduceToNat] at hlow hhigh
  have hd' := hall d.toNat (List.mem_range'_1.mpr ⟨hlow, by omega⟩)
  rwa [Char.ofNat_toNat] at hd'

theorem startsName_eq (c : Char) :
    startsName c = true ↔ Text.isLetter c = true ∨ c = '_' := by
  simp [startsName]

/-- What begins like a number is no name. -/
theorem not_beginsName_of_beginsNumber (h : BeginsNumber rest) : ¬ BeginsName rest := by
  rintro ⟨c, cs, rfl, hc⟩
  rw [← startsName_eq] at hc
  rcases h with ⟨d, ds, heq, hd⟩ | ⟨d, ds, heq, -⟩
  · obtain ⟨rfl, -⟩ := List.cons.inj heq
    rw [startsName_of_isDigit hd] at hc
    cases hc
  · obtain ⟨rfl, -⟩ := List.cons.inj heq
    revert hc
    decide

theorem lexeme_of_beginsNumber (h : BeginsNumber rest) :
    ((lexeme rest).1 = .whole ∨ (lexeme rest).1 = .decimal) ∧
      Longest numberTexts rest (lexeme rest).2 ∧
      ((lexeme rest).1 = .whole ↔ ∀ c ∈ (lexeme rest).2, c.isDigit = true) := by
  rcases h with ⟨d, cs, rfl, hd⟩ | ⟨d, cs, rfl, hd⟩
  · rw [lexeme_of_isDigit hd]
    refine ⟨?_, longest_of_isDigit hd, numberOf_whole_iff _⟩
    simp only [numberOf]
    split
    · exact .inl rfl
    · exact .inr rfl
  · rw [lexeme_of_point hd]
    refine ⟨.inr rfl, longest_of_point hd, iff_of_false (by simp) fun hall => ?_⟩
    exact (ne_of_isDigit (hall '.' (by simp [pointNumberOf]))).1 rfl

theorem lexeme_of_beginsName (h : BeginsName rest) :
    (lexeme rest).1 = .name ∧ Longest nameTexts rest (lexeme rest).2 := by
  have hbegins := lexeme_begins rest
  have hnumber : ¬ BeginsNumber rest := fun hn => not_beginsName_of_beginsNumber hn h
  obtain ⟨c, cs, rfl, hc⟩ := h
  rw [← startsName_eq] at hc
  have hdigit : ¬ c.isDigit = true := fun hd => hnumber (.inl ⟨c, cs, rfl, hd⟩)
  have hpoint : c ≠ '.' := by
    rintro rfl
    revert hc
    decide
  have hlexeme : lexeme (c :: cs) = (.name, (c :: cs).takeWhile continuesName) := by
    rw [lexeme, if_neg hdigit, if_neg hpoint, if_pos hc]
  rw [hlexeme] at hbegins ⊢
  refine ⟨rfl, hbegins, (greedy_takeWhile continuesName).mem _, ?_⟩
  rintro ds ⟨rest, hrest⟩ hds
  rw [← hrest]
  exact ((greedy_takeWhile continuesName).covers ds hds rest).length_le

theorem lexeme_otherwise {c : Char} (hnumber : ¬ BeginsNumber (c :: cs))
    (hname : ¬ BeginsName (c :: cs)) : lexeme (c :: cs) = (.symbol, [c]) := by
  have hdigit : ¬ c.isDigit = true := fun hd => hnumber (.inl ⟨c, cs, rfl, hd⟩)
  have hstart : ¬ startsName c = true := fun hc => hname ⟨c, cs, rfl, (startsName_eq c).mp hc⟩
  rw [lexeme, if_neg hdigit]
  by_cases hpoint : c = '.'
  · subst hpoint
    have hnext : ¬ cs.head?.any Char.isDigit = true := by
      cases cs with
      | nil => simp
      | cons d ds => exact fun hd => hnumber (.inr ⟨d, ds, rfl, hd⟩)
    rw [if_pos rfl, if_neg hnext]
  · rw [if_neg hpoint, if_neg hstart]

/-! ## Tokens -/

/-- A token is the longest match at the beginning of a text. -/
structure LongestMatch (rest : List Char) (t : Token) : Prop where
  eof_iff : t.kind = .eof ↔ rest = []
  number_iff : t.kind = .whole ∨ t.kind = .decimal ↔ BeginsNumber rest
  number : BeginsNumber rest → Longest numberTexts rest t.text.toList
  whole_iff : BeginsNumber rest → (t.kind = .whole ↔ ∀ c ∈ t.text.toList, c.isDigit = true)
  name_iff : t.kind = .name ↔ BeginsName rest
  name : BeginsName rest → Longest nameTexts rest t.text.toList
  symbol : rest ≠ [] → ¬ BeginsNumber rest → ¬ BeginsName rest →
    t.kind = .symbol ∧ ∃ c cs, rest = c :: cs ∧ t.text.toList = [c]

/-- What a text begins with decides the kind of its lexeme. -/
theorem lexeme_kind_cases (rest : List Char) :
    (rest = [] ∧ (lexeme rest).1 = .eof) ∨
      (BeginsNumber rest ∧ ((lexeme rest).1 = .whole ∨ (lexeme rest).1 = .decimal)) ∨
      (BeginsName rest ∧ (lexeme rest).1 = .name) ∨
      (lexeme rest).1 = .symbol := by
  by_cases hnil : rest = []
  · exact .inl ⟨hnil, lexeme_kind_eq_eof.mpr hnil⟩
  by_cases hnumber : BeginsNumber rest
  · exact .inr (.inl ⟨hnumber, (lexeme_of_beginsNumber hnumber).1⟩)
  by_cases hname : BeginsName rest
  · exact .inr (.inr (.inl ⟨hname, (lexeme_of_beginsName hname).1⟩))
  · obtain ⟨c, cs, rfl⟩ := List.exists_cons_of_ne_nil hnil
    exact .inr (.inr (.inr (by rw [lexeme_otherwise hnumber hname])))

theorem lexeme_longestMatch (rest : List Char) (pos : Nat) :
    LongestMatch rest ⟨(lexeme rest).1, String.ofList (lexeme rest).2, pos⟩ where
  eof_iff := lexeme_kind_eq_eof
  number_iff := by
    refine ⟨fun hkind => ?_, fun h => (lexeme_of_beginsNumber h).1⟩
    rcases lexeme_kind_cases rest with ⟨-, h⟩ | ⟨hnumber, -⟩ | ⟨-, h⟩ | h
    · simp [h] at hkind
    · exact hnumber
    · simp [h] at hkind
    · simp [h] at hkind
  number h := by
    rw [String.toList_ofList]
    exact (lexeme_of_beginsNumber h).2.1
  whole_iff h := by
    rw [String.toList_ofList]
    exact (lexeme_of_beginsNumber h).2.2
  name_iff := by
    refine ⟨fun hkind => ?_, fun h => (lexeme_of_beginsName h).1⟩
    rcases lexeme_kind_cases rest with ⟨-, h⟩ | ⟨-, h⟩ | ⟨hname, -⟩ | h
    · simp [h] at hkind
    · rcases h with h | h <;> simp [h] at hkind
    · exact hname
    · simp [h] at hkind
  name h := by
    rw [String.toList_ofList]
    exact (lexeme_of_beginsName h).2
  symbol hne hnumber hname := by
    obtain ⟨c, cs, rfl⟩ := List.exists_cons_of_ne_nil hne
    rw [lexeme_otherwise hnumber hname, String.toList_ofList]
    exact ⟨rfl, c, cs, rfl, rfl⟩

/-- One step from a place in a text: the token is the lexeme at its own offset, and the reader is at
a place in the text again. -/
theorem token_at {cs : List Char} {r : Reader} (h : cs.drop r.position = r.toList) :
    (∃ pos, (token r).1 = ⟨(lexeme (cs.drop pos)).1, String.ofList (lexeme (cs.drop pos)).2, pos⟩) ∧
      cs.drop (token r).2.position = (token r).2.toList := by
  obtain ⟨ht, hp⟩ := token_spec r
  constructor
  · refine ⟨r.position + (r.toList.takeWhile Text.isBlank).length, ?_⟩
    have hdrop : cs.drop (r.position + (r.toList.takeWhile Text.isBlank).length) =
        r.toList.dropWhile Text.isBlank := by
      rw [← List.drop_drop, h]
      nth_rewrite 2 [← List.takeWhile_append_dropWhile (p := Text.isBlank) (l := r.toList)]
      rw [List.drop_left]
    rw [hdrop]
    exact ht
  · rw [hp.2, ← List.drop_drop, h, hp.toList_eq]

/-- Every token that is read from a place in a text is the lexeme at its offset. -/
theorem longestMatch_of_mem_following {cs : List Char} {l : Lexer} {n : Nat} {t : Token}
    (h : cs.drop l.reader.position = l.reader.toList) (ht : t ∈ l.following n) :
    LongestMatch (cs.drop t.pos) t := by
  induction n generalizing l with
  | zero => cases ht
  | succ n ih =>
    obtain ⟨⟨pos, hpos⟩, hnext⟩ := token_at h
    rcases List.mem_cons.mp ht with rfl | ht
    · rw [show l.advance.current = (token l.reader).1 from rfl, hpos]
      exact lexeme_longestMatch _ pos
    · exact ih hnext ht

end Lexer

/-- **Each token is the longest match**: whatever is read from a text, a token is a number just if
the text at its offset begins like one, and is then the longest number that stands there; it is a
name just if the text begins with a letter or an underscore, and is then the longest run of what
names are made of; and otherwise it is a symbol of one character, unless the text has ended. The
same holds of a text in pieces. -/
theorem tokens_longest_match :
    (∀ cs n, ∀ t ∈ (Lexer.ofSource (.text cs)).following n,
      Lexer.LongestMatch (cs.drop t.pos) t) ∧
    (∀ (s : Source) n, ∀ t ∈ (Lexer.ofSource s).following n,
      Lexer.LongestMatch (s.pieces.flatten.drop t.pos) t) := by
  have hpieces (s : Source) n : ∀ t ∈ (Lexer.ofSource s).following n,
      Lexer.LongestMatch (s.pieces.flatten.drop t.pos) t :=
    fun t ht => Lexer.longestMatch_of_mem_following rfl ht
  refine ⟨fun cs n t ht => ?_, hpieces⟩
  have hmatch := hpieces (.text cs) n t ht
  rwa [Reader.flatten_text] at hmatch

/-- Of `1e+.5.` a number takes the mark and the sign, though no digit follows, and leaves the
point. -/
theorem tokens_longest_match_sign :
    (⟨.decimal, "1e+", 0⟩ : Token) ∈ (Lexer.ofSource (.text "1e+.5.".toList)).following 3 ∧
      Lexer.Longest Lexer.numberTexts "1e+.5.".toList "1e+".toList ∧
      (⟨.decimal, ".5", 3⟩ : Token) ∈ (Lexer.ofSource (.text "1e+.5.".toList)).following 3 ∧
      Lexer.Longest Lexer.numberTexts ".5.".toList ".5".toList := by
  have hfirst : (⟨.decimal, "1e+", 0⟩ : Token) ∈
      (Lexer.ofSource (.text "1e+.5.".toList)).following 3 := by decide +kernel
  have hsecond : (⟨.decimal, ".5", 3⟩ : Token) ∈
      (Lexer.ofSource (.text "1e+.5.".toList)).following 3 := by decide +kernel
  refine ⟨hfirst, ?_, hsecond, ?_⟩
  · have hmatch := tokens_longest_match.1 _ _ _ hfirst
    exact hmatch.number (hmatch.number_iff.mp (.inr rfl))
  · have hmatch := tokens_longest_match.1 _ _ _ hsecond
    exact hmatch.number (hmatch.number_iff.mp (.inr rfl))

end Calculator
