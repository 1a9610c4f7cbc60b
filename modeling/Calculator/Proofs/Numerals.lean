import Calculator.Proofs.RoundTrip
import Calculator.Sample.Generator

/-!
# Random numbers as they are read

A random number is written with digits alone or with two places. Both ways it is one token, which
ends where the digits end, and its value is not zero: a decimal is read as zero only if it lies
below the smallest positive number, and every random number that is written is one hundredth at
least.
-/

namespace Calculator

open Lexer Number

/-! ## Decimals that are not read as zero -/

namespace Decimal

/-- What is not below the smallest positive number is not rounded to zero. -/
theorem nearestWord_pos {n d : Nat} (hd : 0 < d) (h : d ≤ n * Binary64.unitsPerOne) :
    0 < nearestWord n d := by
  simp only [nearestWord]
  generalize n * Binary64.unitsPerOne = n at h
  generalize Nat.log2 (n / d) - 52 = scale
  cases scale with
  | zero =>
    have hq : 0 < n / d := Nat.div_pos h hd
    have hle := div_le_roundHalfEven n d
    rw [Nat.shiftLeft_zero, Nat.zero_shiftLeft]
    omega
  | succ scale =>
    have : 0 < (scale + 1) <<< 52 := by
      rw [Nat.shiftLeft_eq]
      exact Nat.mul_pos (Nat.succ_pos scale) (by decide)
    omega

/-- The value of digits alone. -/
theorem ofChars?_digits {ds : List Char} (hne : ds ≠ []) (hd : ∀ c ∈ ds, c.isDigit = true) :
    ofChars? ds = some ⟨valueOfDigits ds, 0⟩ := by
  have hspan : ds.span Char.isDigit = (ds, []) := by
    rw [List.span_eq_takeWhile_dropWhile, List.takeWhile_eq_self_iff.mpr hd,
      List.dropWhile_eq_nil_iff.mpr hd]
  simp only [ofChars?, hspan]
  simp [hne]

end Decimal

namespace Binary64

theorem isZero_ofWord {w : Nat} (hpos : 0 < w) (hlt : w < infinityWord) :
    (ofWord w).isZero = false := by
  rw [isZero, magnitude_ofWord hlt, decide_eq_false_iff_not]
  omega

end Binary64

/-! ## Numerals -/

/-- A text that is read as one number wherever something follows that ends it, and the value, which
is not zero. -/
structure Numeral (cs : List Char) (x : Binary64) : Prop where
  first : ∃ d ds, cs = d :: ds ∧ d.isDigit = true
  chars : ∀ c ∈ cs, c.isDigit = true ∨ c = '.'
  lexeme : ∃ kind, (kind = .whole ∨ kind = .decimal) ∧
    ∀ rest, EndsNumber rest → lexeme (cs ++ rest) = (kind, cs)
  value : Descent.numberValue (String.ofList cs) = .ok x
  nonzero : x.isZero = false

theorem lexeme_digits {ds rest : List Char} (hne : ds ≠ []) (hd : ∀ c ∈ ds, c.isDigit = true)
    (hrest : EndsNumber rest) : lexeme (ds ++ rest) = (.whole, ds) := by
  have hdigits : (ds ++ rest).takeWhile Char.isDigit = ds := by
    rw [List.takeWhile_append_of_pos hd, hrest.1, List.append_nil]
  have hnumber : numberOf (ds ++ rest) = (.whole, ds) := by
    simp [numberOf, hdigits, hrest.2.1, hrest.2.2]
  obtain ⟨c, cs, rfl⟩ := List.exists_cons_of_ne_nil hne
  rw [← hnumber, List.cons_append, Lexer.lexeme, if_pos (hd c List.mem_cons_self)]

theorem Decimal.word_whole {n : Nat} (hpos : 0 < n) : word ⟨n, 0⟩ = nearestWord n 1 := by
  rw [show (0 : Int) = .ofNat 0 from rfl]
  simp [word, Nat.ne_of_gt hpos]

/-- A positive number up to 999, written with its digits. -/
theorem exists_numeral_whole {n : Nat} (hpos : 0 < n) (hle : n ≤ 999) :
    ∃ x, Numeral (toString n).toList x := by
  have htext : (toString n).toList = Nat.toDigits 10 n := by simp
  have hd : ∀ c ∈ Nat.toDigits 10 n, c.isDigit = true :=
    fun c hc => Nat.isDigit_of_mem_toDigits (by decide) (by decide) hc
  have hne : Nat.toDigits 10 n ≠ [] := by simp
  have hvalue : valueOfDigits (Nat.toDigits 10 n) = n := by simp [valueOfDigits_eq]
  have hsmall : n * Binary64.unitsPerOne ≤ Binary64.largestUnits * 1 :=
    Nat.le_trans (Nat.mul_le_mul_right _ hle) (by decide +kernel)
  have hlarge : 1 ≤ n * Binary64.unitsPerOne :=
    Nat.mul_pos hpos Binary64.unitsPerOne_pos
  have hlt := Decimal.nearestWord_lt Nat.one_pos hsmall
  refine ⟨.ofWord (Decimal.nearestWord n 1), ?_⟩
  rw [htext]
  refine ⟨?_, fun c hc => .inl (hd c hc),
    ⟨.whole, .inl rfl, fun rest hrest => lexeme_digits hne hd hrest⟩, ?_,
    Binary64.isZero_ofWord (Decimal.nearestWord_pos Nat.one_pos hlarge) hlt⟩
  · obtain ⟨d, ds, hds⟩ := List.exists_cons_of_ne_nil hne
    exact ⟨d, ds, hds, hd d (hds ▸ List.mem_cons_self)⟩
  · simp only [Descent.numberValue, String.toList_ofList, Decimal.ofChars?_digits hne hd, hvalue,
      Decimal.toBinary64?, Decimal.word_whole hpos, if_pos hlt]

/-! ## Two places -/

namespace Binary64

variable {x : Binary64}

/-- What lies between two finite numbers that are positive is one itself. -/
theorem magnitude_of_amount (hle : x.word ≤ Draws.greatestAmount.word) :
    x.magnitude = x.word ∧ x.negative = false ∧ x.isFinite = true := by
  rw [show Draws.greatestAmount.word = 0x408F380000000000 from rfl] at hle
  have hm : x.magnitude = x.word := by
    rw [magnitude_eq]
    omega
  refine ⟨hm, ?_, ?_⟩
  · simp only [negative, decide_eq_false_iff_not]
    omega
  · rw [isFinite, hm, infinityWord_eq, decide_eq_true_eq]
    omega

/-- One half and above, counted in units. -/
theorem unitsPerOne_le (h : Draws.leastAmount.word ≤ x.magnitude) : unitsPerOne ≤ x.units * 2 := by
  rw [show Draws.leastAmount.word = 0x3FE0000000000000 from rfl] at h
  have hexponent : 1022 ≤ x.exponent := by
    rw [exponent_eq]
    omega
  have hsignificand : 2 ^ 52 ≤ x.significand := by
    rw [significand, if_neg (by omega)]
    exact Nat.le_add_right _ _
  have hscale : 1021 ≤ x.scale := by
    rw [scale]
    omega
  calc unitsPerOne = 2 ^ 52 * 2 ^ 1021 * 2 := by decide +kernel
    _ ≤ x.significand * 2 ^ x.scale * 2 :=
      Nat.mul_le_mul_right 2 (Nat.mul_le_mul hsignificand (Nat.pow_le_pow_right (by decide) hscale))
    _ = x.units * 2 := by rw [units, Nat.shiftLeft_eq]

theorem scaledBy_pos (h : Draws.leastAmount.word ≤ x.magnitude) : 0 < x.scaledBy 2 := by
  have hunits := unitsPerOne_le h
  have hquot : 0 < x.units * Nat.pow 10 2 / unitsPerOne := by
    refine Nat.div_pos ?_ unitsPerOne_pos
    rw [show Nat.pow 10 2 = 100 from rfl]
    omega
  exact Nat.lt_of_lt_of_le hquot (div_le_roundHalfEven _ _)

end Binary64

/-- A number between one half and 999, written with two places. -/
theorem exists_numeral_amount {x : Binary64} (h : Draws.leastAmount.word ≤ x.word)
    (hle : x.word ≤ Draws.greatestAmount.word) :
    ∃ y, Numeral (x.fixedText 2 false).toList y := by
  obtain ⟨hm, hnegative, hfinite⟩ := Binary64.magnitude_of_amount hle
  rw [← hm] at h
  have hpos := Binary64.scaledBy_pos h
  have hplaces := Decimal.word_places (n := x.scaledBy 2) (e := 1) (by decide)
  obtain ⟨hlt, hvalue⟩ := numberValue_unsignedText hfinite
  have hword : 0 < Decimal.word ⟨x.scaledBy 2, .negSucc 1⟩ := by
    rw [hplaces]
    refine Decimal.nearestWord_pos (by decide) (Nat.le_trans ?_ (Nat.le_mul_of_pos_left _ hpos))
    decide +kernel
  -- the text is digits, a point and two digits
  have htext : (x.fixedText 2 false).toList =
      (splitPlaces 2 (x.scaledBy 2)).1 ++ '.' :: (splitPlaces 2 (x.scaledBy 2)).2 := by
    rw [Binary64.fixedText_of_isFinite hfinite, hnegative]
    rfl
  have hne := splitPlaces_ne_nil 2 (x.scaledBy 2)
  have hw : ∀ c ∈ (splitPlaces 2 (x.scaledBy 2)).1, c.isDigit = true :=
    fun c hc => isDigit_of_mem_splitPlaces _ _ (.inl hc)
  have hf : ∀ c ∈ (splitPlaces 2 (x.scaledBy 2)).2, c.isDigit = true :=
    fun c hc => isDigit_of_mem_splitPlaces _ _ (.inr hc)
  refine ⟨_, ?_, ?_, ?_, ?_, Binary64.isZero_ofWord hword hlt⟩
  · obtain ⟨d, ds, hds⟩ := List.exists_cons_of_ne_nil hne
    rw [htext, hds, List.cons_append]
    exact ⟨d, _, rfl, hw d (hds ▸ List.mem_cons_self)⟩
  · intro c hc
    rw [htext, List.mem_append, List.mem_cons] at hc
    rcases hc with hc | rfl | hc
    · exact .inl (hw c hc)
    · exact .inr rfl
    · exact .inl (hf c hc)
  · refine ⟨.decimal, .inr rfl, fun rest hrest => ?_⟩
    rw [htext, List.append_assoc, List.cons_append]
    exact lexeme_number hne hw hf hrest
  · rw [Binary64.fixedText_of_isFinite hfinite, hnegative]
    exact hvalue

/-- Whatever is drawn, the number that is written is a numeral. -/
theorem Generator.exists_numeral {σ : Type} {draws : Draws σ} (h : draws.Lawful) (s : σ) :
    ∃ x, Numeral (number draws s).1.toList x := by
  simp only [number]
  split
  · exact exists_numeral_whole (Nat.succ_pos _) (Nat.succ_le_of_lt (h.below_lt _))
  · exact exists_numeral_amount (h.amount_ge _) (h.amount_le _)

end Calculator
