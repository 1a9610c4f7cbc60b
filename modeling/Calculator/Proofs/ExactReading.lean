import Calculator.Proofs.LongestMatch
import Calculator.Proofs.Nearest
import Mathlib.Algebra.Order.Field.Basic
import Mathlib.Algebra.Order.Field.Rat
import Mathlib.Tactic.FieldSimp
import Mathlib.Tactic.Linarith
import Mathlib.Tactic.Positivity
import Mathlib.Tactic.Ring

/-!
# Numbers are read exactly

The text of a number denotes a rational, whatever its length. It is read as the nearest of the
finite numbers, and of two that are equally near as the one with an even significand; it is out of
range from half a step beyond the largest finite number on. Between the two stands integer
arithmetic: the rational is a quotient, the finite numbers count units, and all distances are
compared as natural numbers.
-/

namespace Calculator

open Number

/-! ## Values and the nearest of them -/

namespace Binary64

/-- The value of a finite number. -/
def value (x : Binary64) : ℚ :=
  if x.negative then -(x.units / 2 ^ 1074) else x.units / 2 ^ 1074

/-- From here on a rational is out of range: halfway between the largest finite number and the power
of two above it. -/
def rangeEnd : ℚ := 2 ^ 1024 - 2 ^ 970

/-- A number is finite, no finite number is nearer to `q`, and where another one is as near, the
significand is even. -/
structure IsNearest (x : Binary64) (q : ℚ) : Prop where
  finite : x.isFinite = true
  near : ∀ y : Binary64, y.isFinite = true → |x.value - q| ≤ |y.value - q|
  even : ∀ y : Binary64, y.isFinite = true → |y.value - q| = |x.value - q| →
    y.value = x.value ∨ x.significand % 2 = 0

theorem cast_unitsPerOne : (unitsPerOne : ℚ) = 2 ^ 1074 := by
  rw [unitsPerOne]
  generalize 1074 = k
  rw [Nat.one_shiftLeft, Nat.cast_pow, Nat.cast_ofNat]

/-- The significand of a pattern is even as the pattern is. -/
theorem significand_ofWord_mod {w : Nat} (h : w < infinityWord) :
    (ofWord w).significand % 2 = w % 2 := by
  rw [significand, fraction_eq, word_ofWord h, Nat.one_shiftLeft]
  split_ifs <;> omega

end Binary64

namespace Decimal

section RoundedAt

variable {n d scale m : Nat}

/-- What is rounded at a scale below the largest one is in range. -/
theorem RoundedAt.lt_of_lt (h : RoundedAt n d scale m) (hlt : scale < Binary64.largestScale) :
    2 * n < (2 ^ 54 - 1) * (d * 2 ^ Binary64.largestScale) := by
  have hbelow := h.below
  have hle : d * 2 ^ (scale + 1) ≤ d * 2 ^ Binary64.largestScale :=
    Nat.mul_le_mul_left d (Nat.pow_le_pow_right (by decide) hlt)
  rw [Nat.pow_succ, ← Nat.mul_assoc] at hle
  omega

/-- At the largest scale the significand tells whether a quotient is in range; what lies halfway to
the next power of two is rounded to that, since it is even. -/
theorem RoundedAt.lt_iff_of_eq (h : RoundedAt n d Binary64.largestScale m) :
    m < 2 ^ 53 ↔ 2 * n < (2 ^ 54 - 1) * (d * 2 ^ Binary64.largestScale) := by
  have hle := h.le
  have hbelow := h.below
  have hnear := h.rounds.near
  have heven := h.rounds.even
  have htri := Nat.dist_tri_right (m * (d * 2 ^ Binary64.largestScale)) n
  have htri' := Nat.dist_tri_right' (m * (d * 2 ^ Binary64.largestScale)) n
  generalize d * 2 ^ Binary64.largestScale = unit at hbelow hnear heven htri htri' ⊢
  generalize (m * unit).dist n = distance at hnear heven htri htri' ⊢
  constructor
  · intro hm
    by_cases hlast : m = 2 ^ 53 - 1
    · -- the last significand is odd, so no half is rounded to it
      subst hlast
      have hodd : 2 * distance ≠ unit := fun h => absurd (heven h) (by decide)
      omega
    · have hmul : m * unit ≤ (2 ^ 53 - 2) * unit := Nat.mul_le_mul_right unit (by omega)
      omega
  · intro hn
    by_contra hm
    obtain rfl : m = 2 ^ 53 := by omega
    omega

/-- Beyond the largest scale nothing is in range. -/
theorem RoundedAt.le_of_gt (h : RoundedAt n d scale m) (hgt : Binary64.largestScale < scale) :
    2 ^ 52 ≤ m ∧ (2 ^ 54 - 1) * (d * 2 ^ Binary64.largestScale) ≤ 2 * n := by
  generalize Binary64.largestScale = top at hgt ⊢
  have hle : d * 2 ^ (top + 1) ≤ d * 2 ^ scale :=
    Nat.mul_le_mul_left d (Nat.pow_le_pow_right (by decide) hgt)
  rw [Nat.pow_succ, ← Nat.mul_assoc] at hle
  obtain rfl | ⟨hm, hn⟩ := h.full
  · exact absurd hgt (Nat.not_lt_zero _)
  · exact ⟨hm, by omega⟩

end RoundedAt

/-- A quotient is read as a finite number just if it lies below the end of the range, counted in
units and halves of a step. -/
theorem nearestWord_lt_iff {n d : Nat} (hd : 0 < d) :
    nearestWord n d < Binary64.infinityWord ↔
      2 * (n * Binary64.unitsPerOne) < (2 ^ 54 - 1) * (d * 2 ^ Binary64.largestScale) := by
  obtain ⟨scale, m, hword, h⟩ := exists_roundedAt hd n
  have hle := h.le
  rw [hword, Binary64.infinityWord_eq, Nat.shiftLeft_eq]
  rcases Nat.lt_trichotomy scale Binary64.largestScale with hlt | rfl | hgt
  · refine iff_of_true ?_ (h.lt_of_lt hlt)
    rw [Binary64.largestScale] at hlt
    omega
  · rw [← h.lt_iff_of_eq, Binary64.largestScale]
    omega
  · obtain ⟨hm, hn⟩ := h.le_of_gt hgt
    refine iff_of_false ?_ (Nat.not_lt.mpr hn)
    rw [Binary64.largestScale] at hgt
    omega

/-- The end of the range, counted as quotients are read. -/
theorem div_lt_rangeEnd_iff {n d : Nat} (hd : 0 < d) :
    (n : ℚ) / d < Binary64.rangeEnd ↔
      2 * (n * Binary64.unitsPerOne) < (2 ^ 54 - 1) * (d * 2 ^ Binary64.largestScale) := by
  -- with the powers of two kept as they are
  obtain ⟨k, e, hend, hunits, hscale⟩ : ∃ k e, Binary64.rangeEnd = 2 ^ (54 + k) - 2 ^ k ∧
      Binary64.unitsPerOne = 1 <<< e ∧ Binary64.largestScale = k + e + 1 :=
    ⟨970, 1074, rfl, rfl, rfl⟩
  have hnat : Binary64.rangeEnd = ((2 ^ 54 - 1) * 2 ^ k : Nat) := by
    rw [hend]
    push_cast
    ring
  have hd' : (0 : ℚ) < d := by exact_mod_cast hd
  have hone : 0 < 2 ^ e := Nat.pow_pos (by decide)
  rw [div_lt_iff₀ hd', hnat, hunits, hscale, Nat.one_shiftLeft]
  rw [show (2 ^ 54 - 1) * (d * 2 ^ (k + e + 1)) = 2 * ((2 ^ 54 - 1) * 2 ^ k * d * 2 ^ e) by ring,
    Nat.mul_lt_mul_left (by decide), Nat.mul_lt_mul_right hone]
  exact_mod_cast Iff.rfl

end Decimal

/-! ## Distances between rationals -/

theorem cast_dist (a b : Nat) : ((a.dist b : Nat) : ℚ) = |(a : ℚ) - b| := by
  rcases Nat.le_total a b with h | h
  · rw [Nat.dist_eq_sub_of_le h, Nat.cast_sub h, abs_sub_comm, abs_of_nonneg]
    exact sub_nonneg.mpr (by exact_mod_cast h)
  · rw [Nat.dist_eq_sub_of_le_right h, Nat.cast_sub h, abs_of_nonneg]
    exact sub_nonneg.mpr (by exact_mod_cast h)

/-- Distances from a quotient are those of natural numbers, on the scale of both divisors. -/
theorem abs_units_sub {n d : Nat} (hd : 0 < d) (units : Nat) :
    |(units : ℚ) / 2 ^ 1074 - n / d| =
      (((units * d).dist (n * Binary64.unitsPerOne) : Nat) : ℚ) / (2 ^ 1074 * d) := by
  have hd' : (0 : ℚ) < d := by exact_mod_cast hd
  rw [cast_dist, Nat.cast_mul, Nat.cast_mul, Binary64.cast_unitsPerOne]
  have hone : (0 : ℚ) < 2 ^ 1074 := by positivity
  generalize (2 : ℚ) ^ 1074 = one at hone ⊢
  rw [div_sub_div _ _ hone.ne' hd'.ne', abs_div, abs_of_pos (mul_pos hone hd'),
    mul_comm one (n : ℚ)]

namespace Binary64

theorem value_of_not_negative {x : Binary64} (h : x.negative = false) :
    x.value = x.units / 2 ^ 1074 := by
  rw [value, h]
  rfl

theorem units_div_nonneg (x : Binary64) : (0 : ℚ) ≤ x.units / 2 ^ 1074 := by positivity

/-- A sign takes a number away from a rational that has none. -/
theorem abs_units_sub_le (x : Binary64) {q : ℚ} (hq : 0 ≤ q) :
    |(x.units : ℚ) / 2 ^ 1074 - q| ≤ |x.value - q| := by
  have hx := x.units_div_nonneg
  rw [value]
  generalize (x.units : ℚ) / 2 ^ 1074 = a at hx ⊢
  split_ifs
  · rw [abs_of_nonpos (by linarith : -a - q ≤ 0), abs_le]
    exact ⟨by linarith, by linarith⟩
  · exact le_rfl

end Binary64

/-- A number that is as near as the one that is read is the same, unless that one is even. -/
theorem Decimal.units_eq_or_even {n d : Nat} (hd : 0 < d)
    (h : nearestWord n d < Binary64.infinityWord) {y : Binary64}
    (hy : (y.units * d).dist (n * Binary64.unitsPerOne) =
      ((Binary64.ofWord (nearestWord n d)).units * d).dist (n * Binary64.unitsPerOne)) :
    y.units = (Binary64.ofWord (nearestWord n d)).units ∨
      (Binary64.ofWord (nearestWord n d)).significand % 2 = 0 := by
  rw [Binary64.significand_ofWord_mod h]
  obtain ⟨scale, m, hword, hrounded⟩ := exists_roundedAt hd n
  rw [hword] at h hy ⊢
  rw [hrounded.units_ofWord h] at hy ⊢
  refine ((hrounded.dist_le hd y).2 hy).imp_right fun heven => ?_
  rw [Nat.shiftLeft_eq]
  omega

/-- **A quotient is read as the nearest number**, of two as the even one. -/
theorem Decimal.isNearest_nearestWord {n d : Nat} (hd : 0 < d)
    (h : nearestWord n d < Binary64.infinityWord) :
    (Binary64.ofWord (nearestWord n d)).IsNearest (n / d) := by
  obtain ⟨hfinite, hsign⟩ := Binary64.isFinite_ofWord h
  have hq : (0 : ℚ) ≤ n / d := by positivity
  have hvalue := Binary64.value_of_not_negative hsign
  have hscale : (0 : ℚ) < 2 ^ 1074 * d := by
    have : (0 : ℚ) < d := by exact_mod_cast hd
    positivity
  -- without signs, distances are those of natural numbers
  have hnear : ∀ y : Binary64, |(Binary64.ofWord (nearestWord n d)).value - n / d| ≤
      |(y.units : ℚ) / 2 ^ 1074 - n / d| := by
    intro y
    rw [hvalue, abs_units_sub hd, abs_units_sub hd, div_le_div_iff_of_pos_right hscale]
    exact_mod_cast dist_nearestWord_le hd h y
  refine ⟨hfinite, fun y _ => (hnear y).trans (y.abs_units_sub_le hq), fun y _ heq => ?_⟩
  have hsame : |(y.units : ℚ) / 2 ^ 1074 - n / d| =
      |(Binary64.ofWord (nearestWord n d)).value - n / d| :=
    le_antisymm ((y.abs_units_sub_le hq).trans heq.le) (hnear y)
  rw [hvalue, abs_units_sub hd, abs_units_sub hd, div_left_inj' hscale.ne'] at hsame
  refine (units_eq_or_even hd h (by exact_mod_cast hsame)).imp_left fun hunits => ?_
  cases hneg : y.negative with
  | false => rw [Binary64.value_of_not_negative hneg, hvalue, hunits]
  | true =>
    -- the opposite number is as near only if both are zero, because zero lies between them
    have hzero := hnear ⟨0⟩
    have hopposite : y.value = -(Binary64.ofWord (nearestWord n d)).value := by
      rw [Binary64.value, hneg, hvalue, hunits]
      rfl
    have hnonneg := (Binary64.ofWord (nearestWord n d)).units_div_nonneg
    rw [← hvalue] at hnonneg
    rw [show (⟨0⟩ : Binary64).units = 0 from rfl, Nat.cast_zero, zero_div, zero_sub, abs_neg,
      abs_of_nonneg hq] at hzero
    rw [hopposite] at heq ⊢
    generalize (Binary64.ofWord (nearestWord n d)).value = a at *
    rw [abs_of_nonpos (by linarith : -a - n / d ≤ 0)] at heq
    linarith

/-! ## Decimals -/

namespace Decimal

/-- The value of a decimal. -/
def value (x : Decimal) : ℚ := x.coefficient * 10 ^ x.exponent

/-- Powers of ten exceed powers of eight. -/
theorem two_pow_le_ten_pow {a b : Nat} (h : a ≤ 3 * b) : 2 ^ a ≤ 10 ^ b :=
  calc 2 ^ a ≤ 2 ^ (3 * b) := Nat.pow_le_pow_right (by decide) h
    _ = 8 ^ b := Nat.pow_mul 2 3 b
    _ ≤ 10 ^ b := Nat.pow_le_pow_left (by decide) b

/-- What is less than half a unit is read as zero. -/
theorem nearestWord_eq_zero {n d : Nat} (h : 2 * (n * Binary64.unitsPerOne) < d) :
    nearestWord n d = 0 := by
  simp only [nearestWord]
  generalize n * Binary64.unitsPerOne = n at h ⊢
  rw [Nat.div_eq_of_lt (by omega), Nat.log2_zero, Nat.zero_sub, Nat.zero_shiftLeft,
    Nat.shiftLeft_zero]
  simp only [roundHalfEven]
  rw [Nat.mod_eq_of_lt (by omega), if_pos h, Nat.div_eq_of_lt (by omega)]

/-- A power of ten in the denominator that is far away leaves less than half a unit. -/
theorem far_lt {c e : Nat} (h : Nat.log2 c + farExponent < e) :
    2 * (c * Binary64.unitsPerOne) < 10 ^ (e + 1) := by
  have hc : c < 2 ^ (Nat.log2 c + 1) := Nat.lt_log2_self
  rw [farExponent] at h
  generalize Nat.log2 c = l at h hc
  obtain ⟨k, hunits, hk⟩ : ∃ k, Binary64.unitsPerOne = 1 <<< k ∧ k = 1074 := ⟨1074, rfl, rfl⟩
  rw [hunits, Nat.one_shiftLeft]
  calc 2 * (c * 2 ^ k) < 2 * (2 ^ (l + 1) * 2 ^ k) :=
        Nat.mul_lt_mul_of_pos_left (Nat.mul_lt_mul_of_pos_right hc (Nat.pow_pos (by decide)))
          (by decide)
    _ = 2 ^ (l + k + 2) := by ring
    _ ≤ 10 ^ (e + 1) := two_pow_le_ten_pow (by omega)

/-- A power of ten that is far away is out of range. -/
theorem rangeEnd_le_of_far {c e : Nat} (hc : c ≠ 0) (h : farExponent < e) :
    Binary64.rangeEnd ≤ (c : ℚ) * 10 ^ e := by
  rw [farExponent] at h
  obtain ⟨a, b, hend, ha⟩ : ∃ a b, Binary64.rangeEnd = 2 ^ a - 2 ^ b ∧ a = 1024 :=
    ⟨1024, 970, rfl, rfl⟩
  have hpow : (2 : ℚ) ^ a ≤ 10 ^ e := by exact_mod_cast two_pow_le_ten_pow (by omega)
  have hc' : (1 : ℚ) ≤ c := by exact_mod_cast Nat.one_le_iff_ne_zero.mpr hc
  have hb : (0 : ℚ) ≤ 2 ^ b := by positivity
  calc Binary64.rangeEnd ≤ 2 ^ a := by rw [hend]; linarith
    _ ≤ 10 ^ e := hpow
    _ ≤ c * 10 ^ e := le_mul_of_one_le_left (by positivity) hc'

/-- A decimal is read as a quotient, or is out of range by the size of its power of ten alone. -/
theorem word_cases (x : Decimal) :
    (∃ n d, 0 < d ∧ x.word = nearestWord n d ∧ x.value = (n : ℚ) / (d : ℚ)) ∨
      x.word = Binary64.infinityWord ∧ Binary64.rangeEnd ≤ x.value := by
  obtain ⟨c, exponent⟩ := x
  by_cases hc : c = 0
  · subst hc
    refine .inl ⟨0, 1, Nat.one_pos, ?_, ?_⟩
    · simp [word, nearestWord, roundHalfEven]
    · simp [value]
  cases exponent with
  | ofNat e =>
    have hvalue : value ⟨c, .ofNat e⟩ = c * 10 ^ e := by simp [value]
    by_cases hfar : farExponent < e
    · refine .inr ⟨?_, hvalue ▸ rangeEnd_le_of_far hc hfar⟩
      simp [word, hc, hfar]
    · refine .inl ⟨c * 10 ^ e, 1, Nat.one_pos, ?_, ?_⟩
      · simp [word, hc, hfar]
      · rw [hvalue]
        simp
  | negSucc e =>
    refine .inl ⟨c, 10 ^ (e + 1), Nat.pow_pos (by decide), ?_, ?_⟩
    · by_cases hfar : Nat.log2 c + farExponent < e
      · rw [nearestWord_eq_zero (far_lt hfar)]
        simp [word, hc, hfar]
      · simp [word, hc, hfar]
    · simp [value, zpow_negSucc, div_eq_mul_inv]

/-- **A decimal is read as the nearest number**, unless it is out of range. -/
theorem isNearest_word (x : Decimal) :
    (x.word < Binary64.infinityWord ↔ x.value < Binary64.rangeEnd) ∧
      (x.word < Binary64.infinityWord → (Binary64.ofWord x.word).IsNearest x.value) := by
  rcases x.word_cases with ⟨n, d, hd, hword, hvalue⟩ | ⟨hword, hvalue⟩
  · rw [hword, hvalue]
    refine ⟨?_, isNearest_nearestWord hd⟩
    rw [nearestWord_lt_iff hd, div_lt_rangeEnd_iff hd]
  · rw [hword]
    exact ⟨iff_of_false (Nat.lt_irrefl _) (not_lt.mpr hvalue), fun h => absurd h (Nat.lt_irrefl _)⟩

end Decimal

/-! ## The text of a number -/

/-- An exponent as it is written. -/
structure ExponentText where
  mark : Char
  sign : Option Sign
  digits : List Char
  mark_eq : mark = 'e' ∨ mark = 'E'
  isDigit : ∀ c ∈ digits, c.isDigit = true

/-- A number as it is written: digits, a point and the digits behind it if there is one, and an
exponent if there is one. Digits may stand on either side of the point, and do so on one. -/
structure NumberText where
  whole : List Char
  fraction : Option (List Char)
  exponent : Option ExponentText
  isDigit_whole : ∀ c ∈ whole, c.isDigit = true
  isDigit_fraction : ∀ ds ∈ fraction, ∀ c ∈ ds, c.isDigit = true
  nonempty : whole ≠ [] ∨ ∃ ds ∈ fraction, ds ≠ []

namespace ExponentText

/-- The characters behind the mark. -/
def behindMark (e : ExponentText) : List Char :=
  e.sign.elim [] (fun sign => sign.text.toList) ++ e.digits

/-- The characters of an exponent. -/
def chars (e : ExponentText) : List Char := e.mark :: e.behindMark

/-- The power of ten that an exponent denotes. -/
def value (e : ExponentText) : Int :=
  if e.sign = some .minus then -valueOfDigits e.digits else valueOfDigits e.digits

/-- An exponent is read unless it has no digits. -/
theorem exponentOf?_behindMark (e : ExponentText) :
    Decimal.exponentOf? e.behindMark = if e.digits = [] then none else some e.value := by
  obtain ⟨mark, sign, digits, -, hdigits⟩ := e
  have hall : digits.all Char.isDigit = true := List.all_eq_true.mpr hdigits
  cases sign with
  | none =>
    have hplain : Decimal.exponentOf? digits =
        if digits.isEmpty || !digits.all Char.isDigit then none
        else some (valueOfDigits digits : Int) := by
      cases digits with
      | nil => rfl
      | cons d ds =>
        have hsign := Lexer.ne_of_isDigit (hdigits d List.mem_cons_self)
        simp [Decimal.exponentOf?, hsign]
    simp [behindMark, value, hplain, hall]
  | some sign =>
    cases sign with
    | plus =>
      show Decimal.exponentOf? ('+' :: digits) = _
      simp [Decimal.exponentOf?, value, hall]
    | minus =>
      show Decimal.exponentOf? ('-' :: digits) = _
      simp [Decimal.exponentOf?, value, hall]

end ExponentText

/-- Digits behind digits move them by as many places. -/
theorem Number.valueOfDigits_append (ds es : List Char) :
    valueOfDigits (ds ++ es) = valueOfDigits ds * 10 ^ es.length + valueOfDigits es := by
  induction es using List.reverseRecOn with
  | nil => simp [valueOfDigits]
  | append_singleton es c ih =>
    have hstep : ∀ ds, valueOfDigits (ds ++ [c]) = valueOfDigits ds * 10 + digitValue c :=
      fun ds => by simp [valueOfDigits]
    rw [← List.append_assoc, hstep, hstep, ih, List.length_append, List.length_singleton]
    ring

namespace NumberText

/-- The digits behind the point. -/
def places (n : NumberText) : List Char := n.fraction.getD []

/-- The characters of the point and of the digits behind it. -/
def fractionChars (n : NumberText) : List Char := n.fraction.elim [] fun ds => '.' :: ds

/-- The characters of the exponent. -/
def exponentChars (n : NumberText) : List Char := n.exponent.elim [] ExponentText.chars

/-- The characters of a number. -/
def chars (n : NumberText) : List Char := n.whole ++ (n.fractionChars ++ n.exponentChars)

/-- A number has the mark of an exponent and no digit behind it. -/
def LacksDigits (n : NumberText) : Prop := ∃ e ∈ n.exponent, e.digits = []

/-- The rational that a number denotes. -/
def value (n : NumberText) : ℚ :=
  (valueOfDigits n.whole + valueOfDigits n.places / 10 ^ n.places.length) *
    10 ^ (n.exponent.elim 0 ExponentText.value)

/-- The decimal that a number denotes. -/
def decimal (n : NumberText) : Decimal :=
  ⟨valueOfDigits (n.whole ++ n.places), n.exponent.elim 0 ExponentText.value - n.places.length⟩

theorem value_decimal (n : NumberText) : n.decimal.value = n.value := by
  have hten : (10 : ℚ) ≠ 0 := by norm_num
  rw [Decimal.value, value, decimal, valueOfDigits_append, sub_eq_neg_add, zpow_add₀ hten, zpow_neg,
    zpow_natCast]
  push_cast
  field_simp

/-- Digits, and then what is not one. -/
theorem span_digits {ds rest : List Char} (hds : ∀ c ∈ ds, c.isDigit = true)
    (hrest : ∀ c ∈ rest.head?, c.isDigit = false) :
    (ds ++ rest).span Char.isDigit = (ds, rest) := by
  rw [List.span_eq_takeWhile_dropWhile, List.takeWhile_append_of_pos hds,
    List.dropWhile_append_of_pos hds]
  cases rest with
  | nil => simp
  | cons c cs => simp [hrest c rfl]

theorem head_exponentChars (n : NumberText) :
    ∀ c ∈ n.exponentChars.head?, c = 'e' ∨ c = 'E' := by
  intro c hc
  rw [exponentChars] at hc
  cases he : n.exponent with
  | none => rw [he] at hc; cases hc
  | some e =>
    rw [he] at hc
    obtain rfl : e.mark = c := Option.some.inj hc
    exact e.mark_eq

theorem isDigit_places (n : NumberText) : ∀ c ∈ n.places, c.isDigit = true := by
  intro c hc
  rw [places] at hc
  cases hf : n.fraction with
  | none => rw [hf] at hc; cases hc
  | some ds => exact n.isDigit_fraction ds hf c (by simpa [hf] using hc)

theorem places_ne_nil (n : NumberText) : (n.whole.isEmpty && n.places.isEmpty) = false := by
  rcases n.nonempty with hne | ⟨ds, hds, hne⟩
  · simp [hne]
  · simp [places, Option.mem_def.mp hds, hne]

/-- The digits on both sides of the point are read first, and the exponent behind them. -/
theorem ofChars?_parts (n : NumberText) :
    Decimal.ofChars? n.chars =
      match n.exponentChars with
      | [] => some ⟨valueOfDigits (n.whole ++ n.places), -n.places.length⟩
      | c :: more =>
        if Decimal.isExponentMark c then
          (Decimal.exponentOf? more).map fun e =>
            ⟨valueOfDigits (n.whole ++ n.places), e + -n.places.length⟩
        else none := by
  have hdigit : ∀ c ∈ n.exponentChars.head?, c.isDigit = false := by
    intro c hc
    rcases n.head_exponentChars c hc with rfl | rfl <;> decide
  have hplaces := n.isDigit_places
  have hne := n.places_ne_nil
  rw [chars, fractionChars]
  simp only [places] at hplaces hne ⊢
  generalize n.fraction = fraction at hplaces hne ⊢
  cases fraction with
  | none =>
    have hspan : (n.whole ++ ([] ++ n.exponentChars)).span Char.isDigit =
        (n.whole, n.exponentChars) := span_digits n.isDigit_whole hdigit
    have hpoint := n.head_exponentChars
    have hwhole : n.whole ≠ [] := by simpa using hne
    simp only [Option.elim_none, Option.getD_none, Decimal.ofChars?, hspan]
    generalize n.exponentChars = tail at hpoint ⊢
    cases tail with
    | nil => simp [hwhole]
    | cons c more =>
      have hc : c ≠ '.' := by
        rcases hpoint c rfl with rfl | rfl <;> decide
      simp [hwhole, hc]
  | some ds =>
    have hspan : (n.whole ++ ('.' :: ds ++ n.exponentChars)).span Char.isDigit =
        (n.whole, '.' :: (ds ++ n.exponentChars)) :=
      span_digits n.isDigit_whole (by rintro c ⟨⟩; decide)
    simp only [Option.elim_some, Option.getD_some] at hplaces hne ⊢
    simp only [Decimal.ofChars?, hspan, span_digits hplaces hdigit, hne]
    rfl

/-- **The text of a number is read as the decimal that it denotes**, unless an exponent lacks its
digits. -/
theorem ofChars?_chars (n : NumberText) :
    (n.LacksDigits → Decimal.ofChars? n.chars = none) ∧
      (¬ n.LacksDigits → Decimal.ofChars? n.chars = some n.decimal) := by
  rw [ofChars?_parts, decimal, exponentChars, LacksDigits]
  cases n.exponent with
  | none => simp
  | some e =>
    have hmark : Decimal.isExponentMark e.mark = true := by
      simpa [Decimal.isExponentMark] using e.mark_eq
    by_cases he : e.digits = []
    · simp [ExponentText.chars, hmark, e.exponentOf?_behindMark, he]
    · simp [ExponentText.chars, hmark, e.exponentOf?_behindMark, he, sub_eq_add_neg]

end NumberText

/-! ## Tokens -/

open Lexer in
/-- Every exponent of the lexical grammar is written as exponents are. -/
theorem exists_exponentText {es : List Char} (h : es ∈ 1 + exponentTexts) :
    ∃ e : Option ExponentText, e.elim [] ExponentText.chars = es := by
  rcases mem_optional.mp h with rfl | h
  · exact ⟨none, rfl⟩
  · obtain ⟨mark, behind, hmark, hbehind, rfl⟩ := mem_oneOf_mul.mp h
    obtain ⟨signs, hsigns, digits, hdigits, rfl⟩ := Language.mem_mul.mp hbehind
    have hsign : ∃ sign : Option Sign, sign.elim [] (fun sign => sign.text.toList) = signs := by
      rcases mem_optional.mp hsigns with rfl | ⟨c, hc, rfl⟩
      · exact ⟨none, rfl⟩
      · rcases (by simpa using hc : c = '+' ∨ c = '-') with rfl | rfl
        · exact ⟨some .plus, rfl⟩
        · exact ⟨some .minus, rfl⟩
    obtain ⟨sign, rfl⟩ := hsign
    exact ⟨some ⟨mark, sign, digits, by simpa using hmark, mem_kstar_oneOf.mp hdigits⟩, rfl⟩

open Lexer in
/-- Every number of the lexical grammar is written as numbers are. -/
theorem exists_numberText {cs : List Char} (h : cs ∈ numberTexts) :
    ∃ n : NumberText, n.chars = cs := by
  rcases h with h | h
  · obtain ⟨whole, hwhole, parts, hparts, rfl⟩ := Language.mem_mul.mp h
    obtain ⟨fs, hfs, es, hes, rfl⟩ := Language.mem_mul.mp hparts
    obtain ⟨hne, hdigits⟩ := mem_oneOf_mul_kstar.mp hwhole
    obtain ⟨exponent, rfl⟩ := exists_exponentText hes
    rcases mem_optional.mp hfs with rfl | hfs
    · exact ⟨⟨whole, none, exponent, hdigits, by simp, .inl hne⟩, rfl⟩
    · obtain ⟨c, ds, hc, hds, rfl⟩ := mem_oneOf_mul.mp hfs
      obtain rfl := of_decide_eq_true hc
      refine ⟨⟨whole, some ds, exponent, hdigits, ?_, .inl hne⟩, rfl⟩
      rintro _ ⟨⟩
      exact mem_kstar_oneOf.mp hds
  · obtain ⟨c, parts, hc, hparts, rfl⟩ := mem_oneOf_mul.mp h
    obtain rfl := of_decide_eq_true hc
    obtain ⟨ds, hds, es, hes, rfl⟩ := Language.mem_mul.mp hparts
    obtain ⟨hne, hdigits⟩ := mem_oneOf_mul_kstar.mp hds
    obtain ⟨exponent, rfl⟩ := exists_exponentText hes
    refine ⟨⟨[], some ds, exponent, by simp, ?_, .inr ⟨ds, rfl, hne⟩⟩, rfl⟩
    rintro _ ⟨⟩
    exact hdigits

/-- What becomes of the text of a number. -/
theorem NumberText.numberValue_cases (n : NumberText) {text : String} (hn : n.chars = text.toList) :
    (n.LacksDigits ∧ Descent.numberValue text = .error (.malformed text)) ∨
      (¬ n.LacksDigits ∧ Binary64.rangeEnd ≤ n.value ∧
        Descent.numberValue text = .error (.outOfRange text)) ∨
      (¬ n.LacksDigits ∧ n.value < Binary64.rangeEnd ∧
        ∃ x, Descent.numberValue text = .ok x ∧ x.IsNearest n.value ∧ x.negative = false) := by
  obtain ⟨hlacks, hhas⟩ := n.ofChars?_chars
  rw [hn] at hlacks hhas
  by_cases h : n.LacksDigits
  · exact .inl ⟨h, by simp only [Descent.numberValue, hlacks h]⟩
  · obtain ⟨hrange, hnearest⟩ := n.decimal.isNearest_word
    rw [n.value_decimal] at hrange hnearest
    by_cases hlt : n.decimal.word < Binary64.infinityWord
    · refine .inr (.inr ⟨h, hrange.mp hlt, .ofWord n.decimal.word, ?_, hnearest hlt,
        (Binary64.isFinite_ofWord hlt).2⟩)
      simp only [Descent.numberValue, hhas h, Decimal.toBinary64?, if_pos hlt]
    · refine .inr (.inl ⟨h, not_lt.mp fun hlt' => hlt (hrange.mpr hlt'), ?_⟩)
      simp only [Descent.numberValue, hhas h, Decimal.toBinary64?, if_neg hlt]

/-- **Numbers are read exactly.** Every number that the lexer reads is written as numbers are. It is
malformed just if it has the mark of an exponent and no digit behind it. Otherwise it is out of
range just if the rational that it denotes is not below the end of the range; and if it is in range
its value is the nearest number, with halves to the even one, and has no sign. -/
theorem numberValue_exact (s : Source) (k : Nat) (t : Token)
    (ht : t ∈ (Lexer.ofSource s).following k) (hnumber : t.isNumber = true) :
    (∃ n : NumberText, n.chars = t.text.toList) ∧
      ∀ n : NumberText, n.chars = t.text.toList →
        (Descent.numberValue t.text = .error (.malformed t.text) ↔ n.LacksDigits) ∧
        (¬ n.LacksDigits →
          (Descent.numberValue t.text = .error (.outOfRange t.text) ↔
            (2 : ℚ) ^ 1024 - 2 ^ 970 ≤ n.value) ∧
          (n.value < 2 ^ 1024 - 2 ^ 970 → ∃ x, Descent.numberValue t.text = .ok x ∧
            x.IsNearest n.value ∧ x.negative = false)) := by
  have hmatch := Lexer.longestMatch_of_mem_following rfl ht
  have hkind : t.kind = .whole ∨ t.kind = .decimal := by simpa [Token.isNumber] using hnumber
  refine ⟨exists_numberText (hmatch.number (hmatch.number_iff.mp hkind)).mem, fun n hn => ?_⟩
  rw [← Binary64.rangeEnd]
  rcases n.numberValue_cases hn with ⟨h, hv⟩ | ⟨h, hrange, hv⟩ | ⟨h, hrange, x, hv, hx⟩
  · exact ⟨iff_of_true hv h, fun hnot => absurd h hnot⟩
  · refine ⟨iff_of_false (by simp [hv]) h, fun _ => ⟨iff_of_true hv hrange, fun hlt => ?_⟩⟩
    exact absurd hlt (not_lt.mpr hrange)
  · exact ⟨iff_of_false (by simp [hv]) h, fun _ =>
      ⟨iff_of_false (by simp [hv]) (not_le.mpr hrange), fun _ => ⟨x, hv, hx⟩⟩⟩

/-- `9007199254740993` lies halfway between two numbers, and its value is the nearest one that is
even. -/
theorem numberValue_exact_halfway :
    (⟨.whole, "9007199254740993", 0⟩ : Token) ∈
        (Lexer.ofSource (.text "9007199254740993".toList)).following 1 ∧
      ∃ x, Descent.numberValue "9007199254740993" = .ok x ∧ x.IsNearest 9007199254740993 ∧
        x.negative = false := by
  have ht : (⟨.whole, "9007199254740993", 0⟩ : Token) ∈
      (Lexer.ofSource (.text "9007199254740993".toList)).following 1 := by decide +kernel
  have hdigits : ∀ c ∈ "9007199254740993".toList, c.isDigit = true :=
    List.all_eq_true.mp (by decide +kernel)
  have hwhole : valueOfDigits "9007199254740993".toList = 9007199254740993 := by decide +kernel
  obtain ⟨n, hchars, hexponent, hvalue⟩ : ∃ n : NumberText,
      n.chars = "9007199254740993".toList ∧ n.exponent = none ∧ n.value = 9007199254740993 := by
    refine ⟨⟨_, none, none, hdigits, by simp, .inl (by decide)⟩, rfl, rfl, ?_⟩
    simp only [NumberText.value, NumberText.places, hwhole]
    norm_num [valueOfDigits]
  have hrange : (9007199254740993 : ℚ) < 2 ^ 1024 - 2 ^ 970 := by
    have hpow : (1 : ℚ) ≤ 2 ^ 970 := one_le_pow₀ (by norm_num)
    rw [show 1024 = 54 + 970 from rfl, pow_add]
    generalize (2 : ℚ) ^ 970 = p at hpow ⊢
    linarith
  obtain ⟨-, hexact⟩ := (numberValue_exact _ _ _ ht rfl).2 n hchars
  have hhas : ¬ n.LacksDigits := by simp [NumberText.LacksDigits, hexponent]
  rw [hvalue] at hexact
  exact ⟨ht, (hexact hhas).2 hrange⟩

end Calculator
