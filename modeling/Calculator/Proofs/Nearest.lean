import Calculator.Proofs.RoundTrip
import Mathlib.Data.Nat.Dist

/-!
# Reading gives the nearest number

A decimal is read as a number to which no finite number is nearer. Counted in units, the finite
numbers are the multiples of a power of two with a significand below `2 ^ 53`; the reader rounds to
a multiple of the power that belongs to the leading bit, and whatever is no multiple of it lies
below the smallest significand of that scale.

So reading undoes the second of two roundings: a number that is written with two places is rounded
to a hundredth, and what is read there is at least as near to that hundredth as the number was.
Written again it is rounded to the same hundredth, whatever the magnitude; a half stays a half, and
its hundredth was even.
-/

namespace Calculator

open Number

/-! ## Rounding a quotient -/

namespace Number

/-- The quotient `n / d` is rounded to `m`: no more than a half away, and a half only if `m` is
even. -/
structure RoundsTo (n d m : Nat) : Prop where
  near : 2 * (m * d).dist n ≤ d
  even : 2 * (m * d).dist n = d → m % 2 = 0

variable {n d m k : Nat}

theorem roundsTo_roundHalfEven (hd : 0 < d) (n : Nat) : RoundsTo n d (roundHalfEven n d) := by
  have hdm : n / d * d + n % d = n := by rw [Nat.mul_comm, Nat.div_add_mod]
  have hr := Nat.mod_lt n hd
  simp only [roundHalfEven]
  generalize n / d = q at hdm ⊢
  generalize n % d = r at hdm hr ⊢
  have hbelow : (q * d).dist n = r := by
    rw [Nat.dist_eq_sub_of_le (by omega)]
    omega
  have habove : ((q + 1) * d).dist n = d - r := by
    rw [Nat.succ_mul, Nat.dist_eq_sub_of_le_right (by omega)]
    omega
  split_ifs with h1 h2 h3
  · exact ⟨by omega, by omega⟩
  · exact ⟨by omega, by omega⟩
  · exact ⟨by omega, fun _ => h3⟩
  · exact ⟨by omega, fun _ => by omega⟩

/-- Another multiple of the divisor is at least a divisor away. -/
theorem le_dist_of_lt (h : m < k) : d ≤ (m * d).dist n + (k * d).dist n := by
  have hle : (m + 1) * d ≤ k * d := Nat.mul_le_mul_right d h
  rw [Nat.succ_mul] at hle
  have htriangle := Nat.dist.triangle_inequality (m * d) n (k * d)
  rw [Nat.dist_eq_sub_of_le (by omega), Nat.dist_comm n] at htriangle
  omega

/-- No multiple of the divisor is nearer. -/
theorem RoundsTo.dist_le (h : RoundsTo n d m) (k : Nat) : (m * d).dist n ≤ (k * d).dist n := by
  have hnear := h.near
  rcases Nat.lt_trichotomy m k with hlt | rfl | hlt
  · have := le_dist_of_lt (n := n) (d := d) hlt
    omega
  · exact Nat.le_refl _
  · have := le_dist_of_lt (n := n) (d := d) hlt
    omega

theorem RoundsTo.le_of_roundsTo (hd : 0 < d) (h : RoundsTo n d m) (h' : RoundsTo n d k) :
    m ≤ k := by
  by_contra hlt
  have hgap := le_dist_of_lt (n := n) (d := d) (Nat.lt_of_not_le hlt)
  have hm := h.near
  have hk := h'.near
  -- both are halves, so their multiples are next to each other and both even
  have hmeven := h.even (by omega)
  have hkeven := h'.even (by omega)
  have hle : (k + 2) * d ≤ m * d := Nat.mul_le_mul_right d (by omega)
  have htriangle := Nat.dist.triangle_inequality (k * d) n (m * d)
  rw [Nat.add_mul] at hle
  rw [Nat.dist_eq_sub_of_le (by omega), Nat.dist_comm n] at htriangle
  omega

theorem RoundsTo.eq_roundHalfEven (hd : 0 < d) (h : RoundsTo n d m) : m = roundHalfEven n d :=
  Nat.le_antisymm (h.le_of_roundsTo hd (roundsTo_roundHalfEven hd n))
    ((roundsTo_roundHalfEven hd n).le_of_roundsTo hd h)

end Number

/-! ## The numbers of a scale -/

namespace Binary64

/-- A pattern that is put together from a scale and a significand, be it of a number below the scale
one or of one that is rounded up to the next scale. -/
theorem units_ofWord {scale m : Nat} (hm : scale = 0 ∨ 2 ^ 52 ≤ m) (hle : m ≤ 2 ^ 53)
    (h : scale <<< 52 + m < infinityWord) : (ofWord (scale <<< 52 + m)).units = m * 2 ^ scale := by
  rw [units, significand, Binary64.scale, exponent_eq, fraction_eq, word_ofWord h,
    magnitude_ofWord h, Nat.shiftLeft_eq, Nat.shiftLeft_eq scale, Nat.one_shiftLeft]
  rcases Nat.lt_or_ge m (2 ^ 52) with hlt | hge
  · obtain rfl : scale = 0 := by omega
    rw [if_pos (by omega)]
    simp only [Nat.zero_mul, Nat.zero_add]
    rw [Nat.mod_eq_of_lt (by omega), Nat.div_eq_of_lt (by omega)]
  · rw [if_neg (by omega)]
    rcases Nat.lt_or_eq_of_le hle with hlt | rfl
    · rw [show (scale * 2 ^ 52 + m) / 0x10000000000000 - 1 = scale by omega,
        show 2 ^ 52 + (scale * 2 ^ 52 + m) % 0x10000000000000 = m by omega]
    · rw [show (scale * 2 ^ 52 + 2 ^ 53) / 0x10000000000000 - 1 = scale + 1 by omega,
        show 2 ^ 52 + (scale * 2 ^ 52 + 2 ^ 53) % 0x10000000000000 = 2 ^ 52 by omega,
        Nat.pow_succ 2 scale]
      omega

/-- What is no multiple of a power of two lies below the smallest significand of that scale. -/
theorem units_cases (x : Binary64) (scale : Nat) :
    (∃ k, x.units = k * 2 ^ scale) ∨ x.units < 2 ^ 52 * 2 ^ scale := by
  have hsignificand : x.significand < 2 ^ 53 := by
    rw [significand, fraction_eq]
    split_ifs <;> omega
  rw [units, Nat.shiftLeft_eq]
  rcases Nat.lt_or_ge x.scale scale with hlt | hge
  · right
    calc x.significand * 2 ^ x.scale < 2 ^ 53 * 2 ^ x.scale :=
          Nat.mul_lt_mul_of_pos_right hsignificand (Nat.pow_pos (by decide))
      _ = 2 ^ 52 * 2 ^ (x.scale + 1) := by rw [Nat.pow_succ 2 x.scale]; omega
      _ ≤ 2 ^ 52 * 2 ^ scale := Nat.mul_le_mul_left _ (Nat.pow_le_pow_right (by decide) hlt)
  · left
    refine ⟨x.significand * 2 ^ (x.scale - scale), ?_⟩
    rw [Nat.mul_assoc, ← Nat.pow_add, Nat.sub_add_cancel hge]

end Binary64

/-! ## The nearest number -/

namespace Decimal

/-- At the scale of the leading bit, the significand is not too small. -/
theorem le_significand {n d : Nat} (h : Nat.log2 (n / d) - 52 ≠ 0) :
    2 ^ 52 * (d * 2 ^ (Nat.log2 (n / d) - 52)) ≤ n := by
  have hq : n / d ≠ 0 := by
    intro h0
    simp [h0] at h
  have hpow := Nat.log2_self_le hq
  rw [show Nat.log2 (n / d) = 52 + (Nat.log2 (n / d) - 52) by omega, Nat.pow_add] at hpow
  calc 2 ^ 52 * (d * 2 ^ (Nat.log2 (n / d) - 52))
      = d * (2 ^ 52 * 2 ^ (Nat.log2 (n / d) - 52)) := by rw [Nat.mul_left_comm]
    _ ≤ d * (n / d) := Nat.mul_le_mul_left d hpow
    _ ≤ n := Nat.mul_div_le n d

/-- A quotient `n / d`, counted in units, is rounded to `m` at a scale: the scale is that of its
leading bit, unless it is too small for that. -/
structure RoundedAt (n d scale m : Nat) : Prop where
  rounds : RoundsTo n (d * 2 ^ scale) m
  le : m ≤ 2 ^ 53
  below : n < 2 ^ 53 * (d * 2 ^ scale)
  full : scale = 0 ∨ 2 ^ 52 ≤ m ∧ 2 ^ 52 * (d * 2 ^ scale) ≤ n

/-- The pattern that is read holds a scale and what the quotient is rounded to there. -/
theorem exists_roundedAt {d : Nat} (hd : 0 < d) (n : Nat) :
    ∃ scale m, nearestWord n d = scale <<< 52 + m ∧
      RoundedAt (n * Binary64.unitsPerOne) d scale m := by
  simp only [nearestWord]
  generalize n * Binary64.unitsPerOne = n
  have hle := significand_le hd n
  have hge := le_significand (n := n) (d := d)
  have hpow : n / d + 1 ≤ 2 ^ (Nat.log2 (n / d) - 52 + 53) :=
    Nat.le_trans Nat.lt_log2_self (Nat.pow_le_pow_right (by decide) (by omega))
  generalize Nat.log2 (n / d) - 52 = scale at hle hge hpow ⊢
  have hpos : 0 < d * 2 ^ scale := Nat.mul_pos hd (Nat.pow_pos (by decide))
  rw [Nat.shiftLeft_eq d] at hle ⊢
  refine ⟨scale, _, rfl, roundsTo_roundHalfEven hpos n, hle, ?_, ?_⟩
  · calc n < d * (n / d + 1) := Nat.lt_mul_div_succ n hd
      _ ≤ d * 2 ^ (scale + 53) := Nat.mul_le_mul_left d hpow
      _ = 2 ^ 53 * (d * 2 ^ scale) := by rw [Nat.pow_add, ← Nat.mul_assoc, Nat.mul_comm]
  · rcases Nat.eq_zero_or_pos scale with h0 | h0
    · exact .inl h0
    · have hn := hge (Nat.ne_of_gt h0)
      exact .inr ⟨Nat.le_trans ((Nat.le_div_iff_mul_le hpos).mpr hn) (div_le_roundHalfEven _ _), hn⟩

section RoundedAt

variable {n d scale m : Nat}

/-- Finite numbers are multiples of the scale, or lie below the quotient by more than the smallest
number of the scale does. -/
theorem RoundedAt.units_cases (h : RoundedAt n d scale m) (x : Binary64) :
    (∃ k, x.units = k * 2 ^ scale) ∨
      x.units < 2 ^ 52 * 2 ^ scale ∧ 2 ^ 52 * (d * 2 ^ scale) ≤ n := by
  rcases h.full with rfl | ⟨-, hn⟩
  · exact .inl ⟨x.units, by rw [Nat.pow_zero, Nat.mul_one]⟩
  · exact (x.units_cases scale).imp_right fun hlt => ⟨hlt, hn⟩

/-- No finite number is nearer, and one that is as near is the same, unless the rounded one is
even. -/
theorem RoundedAt.dist_le (h : RoundedAt n d scale m) (hd : 0 < d) (x : Binary64) :
    (m * 2 ^ scale * d).dist n ≤ (x.units * d).dist n ∧
      ((x.units * d).dist n = (m * 2 ^ scale * d).dist n →
        x.units = m * 2 ^ scale ∨ m % 2 = 0) := by
  have hcomm : ∀ k, k * 2 ^ scale * d = k * (d * 2 ^ scale) :=
    fun k => by rw [Nat.mul_assoc, Nat.mul_comm (2 ^ scale)]
  rcases h.units_cases x with ⟨k, hk⟩ | ⟨hlt, hn⟩
  · rw [hk, hcomm, hcomm]
    refine ⟨h.rounds.dist_le k, fun heq => ?_⟩
    -- two multiples that are equally near are both a half away
    have hhalf : k ≠ m → 2 * (m * (d * 2 ^ scale)).dist n = d * 2 ^ scale := by
      intro hne
      have hnear := h.rounds.near
      rcases Nat.lt_or_gt_of_ne hne with hlt | hlt
      · have := le_dist_of_lt (n := n) (d := d * 2 ^ scale) hlt
        omega
      · have := le_dist_of_lt (n := n) (d := d * 2 ^ scale) hlt
        omega
    by_cases hkm : k = m
    · exact .inl (by rw [hkm])
    · exact .inr (h.rounds.even (hhalf hkm))
  · -- the smallest number of the scale stands between
    have hx : x.units * d < 2 ^ 52 * (d * 2 ^ scale) := by
      rw [← hcomm]
      exact Nat.mul_lt_mul_of_pos_right hlt hd
    have hnear := h.rounds.dist_le (2 ^ 52)
    rw [Nat.dist_eq_sub_of_le hn] at hnear
    rw [hcomm, Nat.dist_eq_sub_of_le (Nat.le_trans (Nat.le_of_lt hx) hn)]
    exact ⟨by omega, fun heq => by omega⟩

theorem RoundedAt.units_ofWord (h : RoundedAt n d scale m)
    (hw : scale <<< 52 + m < Binary64.infinityWord) :
    (Binary64.ofWord (scale <<< 52 + m)).units = m * 2 ^ scale :=
  Binary64.units_ofWord (h.full.imp_right And.left) h.le hw

end RoundedAt

/-- **No finite number is nearer** to a quotient than the one that is read. -/
theorem dist_nearestWord_le {n d : Nat} (hd : 0 < d)
    (h : nearestWord n d < Binary64.infinityWord) (x : Binary64) :
    ((Binary64.ofWord (nearestWord n d)).units * d).dist (n * Binary64.unitsPerOne) ≤
      (x.units * d).dist (n * Binary64.unitsPerOne) := by
  obtain ⟨scale, m, hword, hrounded⟩ := exists_roundedAt hd n
  rw [hword] at h ⊢
  rw [hrounded.units_ofWord h]
  exact (hrounded.dist_le hd x).1

end Decimal

/-! ## Two places, written again -/

namespace Binary64

variable {x : Binary64}

/-- The number that is read where two places were written. -/
theorem reread_eq (h : x.isFinite = true) (hs : x.negative = false) :
    x.reread = ofWord (Decimal.nearestWord (x.scaledBy 2) 100) ∧
      Decimal.nearestWord (x.scaledBy 2) 100 < infinityWord := by
  obtain ⟨hlt, hvalue⟩ := numberValue_unsignedText h
  rw [Decimal.word_places (by decide)] at hlt hvalue
  refine ⟨?_, hlt⟩
  have htext : x.fixedText 2 false = String.ofList (x.unsignedText 2 false) := by
    rw [← fixedText_abs h, abs_of_not_negative hs]
  rw [reread, htext, hvalue]

/-- A number that is read again is finite, and has no sign. -/
theorem isFinite_reread (h : x.isFinite = true) (hs : x.negative = false) :
    x.reread.isFinite = true ∧ x.reread.negative = false := by
  obtain ⟨hreread, hlt⟩ := reread_eq h hs
  rw [hreread]
  exact isFinite_ofWord hlt

/-- **The same hundredth again.** -/
theorem scaledBy_reread (h : x.isFinite = true) (hs : x.negative = false) :
    x.reread.scaledBy 2 = x.scaledBy 2 := by
  obtain ⟨hreread, hlt⟩ := reread_eq h hs
  have hnear := Decimal.dist_nearestWord_le (by decide) hlt x
  have hrounds : RoundsTo (x.units * 100) unitsPerOne (x.scaledBy 2) :=
    roundsTo_roundHalfEven unitsPerOne_pos _
  rw [← hreread, Nat.dist_comm, Nat.dist_comm (x.units * 100)] at hnear
  -- what is read is as near to the hundredth as the number was; where it is a half away, so was
  -- the number, and the hundredth is even
  have hagain : RoundsTo (x.reread.units * 100) unitsPerOne (x.scaledBy 2) := by
    refine ⟨?_, ?_⟩
    · exact Nat.le_trans (Nat.mul_le_mul_left 2 hnear) hrounds.near
    · intro hhalf
      have := hrounds.near
      exact hrounds.even (by omega)
  exact (hagain.eq_roundHalfEven unitsPerOne_pos).symm

/-- A number that was read where two places were written is written with the same places. -/
theorem fixedText_reread (h : x.isFinite = true) (hs : x.negative = false) :
    x.reread.fixedText 2 false = x.fixedText 2 false := by
  obtain ⟨hfinite, hsign⟩ := isFinite_reread h hs
  rw [← String.toList_inj, fixedText_of_isFinite hfinite, fixedText_of_isFinite h, hsign, hs]
  simp only [unsignedText, scaledBy_reread h hs]

end Binary64

end Calculator
