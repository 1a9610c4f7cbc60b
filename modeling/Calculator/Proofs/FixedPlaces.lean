import Calculator.Number.Fixed
import Calculator.Parsing.Descent
import Mathlib.Data.List.TakeDrop
import Mathlib.Data.List.TakeWhile
import Mathlib.Tactic.SplitIfs

/-!
# Numbers with fixed places, read again

A number that is written with fixed places consists of digits, a point and as many digits as there
are places; without the point they write the number that counts the last place. Read again it is a
decimal in range: rounding never leaves the finite numbers, because the largest of them is a whole
number and is written exactly.
-/

namespace Calculator

open Number

/-! ## Digits -/

namespace Number

theorem valueOfDigits_eq (ds : List Char) : valueOfDigits ds = Nat.ofDigitChars 10 ds 0 := by
  rw [valueOfDigits, Nat.ofDigitChars_eq_foldl]
  simp only [digitValue, Nat.mul_comm]
  rfl

/-- Leading zeros do not count. -/
theorem valueOfDigits_digitsPadded (width n : Nat) :
    valueOfDigits (digitsPadded width n) = n := by
  simp [valueOfDigits_eq, digitsPadded, digitsOf, Nat.ofDigitChars_append]

theorem isDigit_of_mem_digitsPadded {width n : Nat} {c : Char} (h : c ∈ digitsPadded width n) :
    c.isDigit = true := by
  rcases List.mem_append.mp h with h | h
  · rw [List.eq_of_mem_replicate h]
    decide
  · exact Nat.isDigit_of_mem_toDigits (by decide) (by decide) h

theorem le_length_digitsPadded (width n : Nat) : width ≤ (digitsPadded width n).length := by
  simp only [digitsPadded, List.length_append, List.length_replicate]
  omega

end Number

section Places

variable (places n : Nat)

theorem splitPlaces_append :
    (splitPlaces places n).1 ++ (splitPlaces places n).2 = digitsPadded (places + 1) n := by
  simp [splitPlaces, List.splitAt_eq]

theorem length_splitPlaces : (splitPlaces places n).2.length = places := by
  have h := le_length_digitsPadded (places + 1) n
  simp only [splitPlaces, List.splitAt_eq, List.length_drop]
  omega

theorem splitPlaces_ne_nil : (splitPlaces places n).1 ≠ [] := by
  intro h
  have happ := congrArg List.length (splitPlaces_append places n)
  have hlen := le_length_digitsPadded (places + 1) n
  rw [h, List.nil_append, length_splitPlaces] at happ
  omega

theorem isDigit_of_mem_splitPlaces {c : Char}
    (h : c ∈ (splitPlaces places n).1 ∨ c ∈ (splitPlaces places n).2) : c.isDigit = true := by
  rw [← List.mem_append, splitPlaces_append] at h
  exact isDigit_of_mem_digitsPadded h

end Places

/-! ## Rounding stays within a bound -/

theorem div_le_roundHalfEven (n d : Nat) : n / d ≤ roundHalfEven n d := by
  simp only [roundHalfEven]
  split_ifs <;> omega

theorem roundHalfEven_le {n d m : Nat} (hd : 0 < d) (h : n ≤ m * d) : roundHalfEven n d ≤ m := by
  have hq : n / d ≤ m := Nat.div_le_of_le_mul (by rwa [Nat.mul_comm] at h)
  have hdm := Nat.div_add_mod n d
  simp only [roundHalfEven]
  rcases Nat.lt_or_eq_of_le hq with hlt | heq
  · split_ifs <;> omega
  · -- the bound itself leaves no remainder that could round up
    have hr : n % d = 0 := by
      rw [heq, Nat.mul_comm] at hdm
      omega
    rw [hr, if_pos (by omega)]
    exact hq

/-! ## The largest finite number -/

namespace Binary64

variable {x : Binary64}

theorem magnitude_eq (x : Binary64) : x.magnitude = x.word % 0x8000000000000000 := rfl

theorem exponent_eq (x : Binary64) : x.exponent = x.magnitude / 0x10000000000000 :=
  Nat.shiftRight_eq_div_pow _ 52

theorem fraction_eq (x : Binary64) : x.fraction = x.word % 0x10000000000000 := rfl

theorem infinityWord_eq : infinityWord = 0x7FF0000000000000 := rfl

theorem word_ofWord {w : Nat} (h : w < infinityWord) : (ofWord w).word = w := by
  rw [infinityWord_eq] at h
  simp only [word, ofWord, UInt64.toNat_ofNat']
  omega

theorem magnitude_ofWord {w : Nat} (h : w < infinityWord) : (ofWord w).magnitude = w := by
  rw [magnitude_eq, word_ofWord h]
  rw [infinityWord_eq] at h
  omega

/-- Below the pattern of infinity are the finite numbers without sign. -/
theorem isFinite_ofWord {w : Nat} (h : w < infinityWord) :
    (ofWord w).isFinite = true ∧ (ofWord w).negative = false := by
  rw [isFinite, negative, magnitude_ofWord h, word_ofWord h]
  rw [infinityWord_eq] at h ⊢
  exact ⟨decide_eq_true h, decide_eq_false (by rw [Nat.one_shiftLeft]; omega)⟩

/-- The scale of the largest finite numbers. -/
def largestScale : Nat := 2045

/-- The largest finite number, counted in units. -/
def largestUnits : Nat := 0x1FFFFFFFFFFFFF <<< largestScale

theorem largestUnits_lt : largestUnits < 1 <<< (53 + largestScale) := by
  rw [largestUnits]
  generalize largestScale = k
  rw [Nat.shiftLeft_eq, Nat.one_shiftLeft, Nat.pow_add]
  exact Nat.mul_lt_mul_of_pos_right (by decide) (Nat.pow_pos (by decide))

theorem units_le (h : x.isFinite = true) : x.units ≤ largestUnits := by
  have hm : x.magnitude < 0x7FF0000000000000 := of_decide_eq_true h
  have hsig : x.significand ≤ 0x1FFFFFFFFFFFFF := by
    rw [significand, fraction_eq]
    split_ifs <;> omega
  have hscale : x.scale ≤ largestScale := by
    rw [scale, exponent_eq, largestScale]
    omega
  rw [units, largestUnits, Nat.shiftLeft_eq, Nat.shiftLeft_eq]
  exact Nat.mul_le_mul hsig (Nat.pow_le_pow_right (by decide) hscale)

theorem unitsPerOne_pos : 0 < unitsPerOne := by decide +kernel

/-- Rounding to a place does not exceed the largest finite number: it is a whole one. -/
theorem scaledBy_le (h : x.isFinite = true) (places : Nat) :
    x.scaledBy places * unitsPerOne ≤ largestUnits * Nat.pow 10 places := by
  obtain ⟨e, k, he, hk⟩ : ∃ e k, unitsPerOne = 1 <<< e ∧ largestScale = k + e :=
    ⟨1074, 971, rfl, rfl⟩
  have hwhole : largestUnits * Nat.pow 10 places =
      0x1FFFFFFFFFFFFF <<< k * Nat.pow 10 places * unitsPerOne := by
    rw [largestUnits, he, hk, Nat.shiftLeft_add, Nat.one_shiftLeft,
      Nat.shiftLeft_eq _ e, Nat.mul_right_comm]
  rw [hwhole]
  refine Nat.mul_le_mul_right _ (roundHalfEven_le unitsPerOne_pos ?_)
  rw [← hwhole]
  exact Nat.mul_le_mul_right _ (units_le h)

end Binary64

/-- At the scale of the leading bit, the significand is not too large. -/
theorem Decimal.significand_le {d : Nat} (hd : 0 < d) (n : Nat) :
    roundHalfEven n (d <<< (Nat.log2 (n / d) - 52)) ≤ 0x20000000000000 := by
  generalize hs : Nat.log2 (n / d) - 52 = scale
  rw [Nat.shiftLeft_eq]
  refine roundHalfEven_le (Nat.mul_pos hd (Nat.pow_pos (by decide))) ?_
  have hlt : n < d * (n / d + 1) := Nat.lt_mul_div_succ n hd
  have hpow : n / d + 1 ≤ 2 ^ (scale + 53) :=
    Nat.le_trans Nat.lt_log2_self (Nat.pow_le_pow_right (by decide) (by omega))
  calc n ≤ d * (n / d + 1) := Nat.le_of_lt hlt
    _ ≤ d * 2 ^ (scale + 53) := Nat.mul_le_mul_left d hpow
    _ = 0x20000000000000 * (d * 2 ^ scale) := by rw [Nat.pow_add, ← Nat.mul_assoc, Nat.mul_comm]

/-- What does not exceed the largest finite number is read as a finite number. -/
theorem Decimal.nearestWord_lt {n d : Nat} (hd : 0 < d)
    (h : n * Binary64.unitsPerOne ≤ Binary64.largestUnits * d) :
    nearestWord n d < Binary64.infinityWord := by
  simp only [nearestWord]
  generalize n * Binary64.unitsPerOne = n at h
  have hquot : n / d < 2 ^ (53 + Binary64.largestScale) := by
    rw [← Nat.one_shiftLeft]
    refine Nat.lt_of_le_of_lt (Nat.div_le_of_le_mul ?_) Binary64.largestUnits_lt
    rwa [Nat.mul_comm] at h
  have hlog : Nat.log2 (n / d) < 53 + Binary64.largestScale := by
    by_cases h0 : n / d = 0
    · rw [h0, Nat.log2_zero]
      decide
    · exact (Nat.log2_lt h0).mpr hquot
  generalize hs : Nat.log2 (n / d) - 52 = scale
  have hpos : 0 < d * 2 ^ scale := Nat.mul_pos hd (Nat.pow_pos (by decide))
  rw [Nat.shiftLeft_eq d, Binary64.infinityWord_eq]
  by_cases htop : scale = Binary64.largestScale
  · -- at the largest scale the bound itself is a multiple of the divisor
    have : roundHalfEven n (d * 2 ^ scale) ≤ 0x1FFFFFFFFFFFFF := by
      refine roundHalfEven_le hpos ?_
      rwa [Binary64.largestUnits, Nat.shiftLeft_eq, Nat.mul_assoc, Nat.mul_comm _ d, ← htop] at h
    rw [Binary64.largestScale] at htop
    omega
  · have hle := significand_le hd n
    rw [hs, Nat.shiftLeft_eq] at hle
    rw [Binary64.largestScale] at hlog htop
    omega

/-- A power of ten that is not far away settles nothing by its size. -/
theorem Decimal.word_places {n e : Nat} (he : e ≤ farExponent) :
    word ⟨n, .negSucc e⟩ = nearestWord n (Nat.pow 10 (e + 1)) := by
  simp only [word]
  split_ifs with h0 hfar
  · simp [h0, nearestWord, roundHalfEven]
  · omega
  · rfl

theorem Decimal.word_lt {n e : Nat}
    (h : n * Binary64.unitsPerOne ≤ Binary64.largestUnits * Nat.pow 10 (e + 1)) :
    word ⟨n, .negSucc e⟩ < Binary64.infinityWord := by
  simp only [word]
  split_ifs
  · decide
  · decide
  · exact nearestWord_lt (Nat.pow_pos (by decide)) h

/-! ## Two places -/

theorem Decimal.ofChars?_point {whole fraction : List Char} (hne : whole ≠ [])
    (hw : ∀ c ∈ whole, c.isDigit = true) (hf : ∀ c ∈ fraction, c.isDigit = true) :
    ofChars? (whole ++ '.' :: fraction) =
      some ⟨valueOfDigits (whole ++ fraction), -fraction.length⟩ := by
  have hspan : (whole ++ '.' :: fraction).span Char.isDigit = (whole, '.' :: fraction) := by
    rw [List.span_eq_takeWhile_dropWhile, List.takeWhile_append_of_pos hw,
      List.dropWhile_append_of_pos hw]
    simp
  have hspan' : fraction.span Char.isDigit = (fraction, []) := by
    rw [List.span_eq_takeWhile_dropWhile, List.takeWhile_eq_self_iff.mpr hf,
      List.dropWhile_eq_nil_iff.mpr hf]
  simp only [ofChars?, hspan, hspan']
  simp [hne]

/-- A finite number without sign, written with two places, is read as what it was rounded to. -/
theorem numberValue_unsignedText {x : Binary64} (h : x.isFinite = true) :
    Decimal.word ⟨x.scaledBy 2, .negSucc 1⟩ < Binary64.infinityWord ∧
    Descent.numberValue (String.ofList (x.unsignedText 2 false)) =
      .ok (.ofWord (Decimal.word ⟨x.scaledBy 2, .negSucc 1⟩)) := by
  have htext : x.unsignedText 2 false =
      (splitPlaces 2 (x.scaledBy 2)).1 ++ '.' :: (splitPlaces 2 (x.scaledBy 2)).2 := rfl
  have hdec : Decimal.ofChars? (x.unsignedText 2 false) = some ⟨x.scaledBy 2, .negSucc 1⟩ := by
    rw [htext, Decimal.ofChars?_point (splitPlaces_ne_nil _ _)
      (fun c hc => isDigit_of_mem_splitPlaces _ _ (.inl hc))
      (fun c hc => isDigit_of_mem_splitPlaces _ _ (.inr hc)),
      splitPlaces_append, valueOfDigits_digitsPadded, length_splitPlaces]
    rfl
  have hword := Decimal.word_lt (Binary64.scaledBy_le h 2)
  refine ⟨hword, ?_⟩
  simp only [Descent.numberValue, String.toList_ofList, hdec, Decimal.toBinary64?, if_pos hword]

theorem exists_numberValue {x : Binary64} (h : x.isFinite = true) :
    ∃ y, Descent.numberValue (String.ofList (x.unsignedText 2 false)) = .ok y :=
  ⟨_, (numberValue_unsignedText h).2⟩

end Calculator
