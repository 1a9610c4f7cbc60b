import Calculator.Proofs.ExactReading
import Calculator.Proofs.Rendering
import Mathlib.Algebra.Order.Round
import Mathlib.Data.Rat.Floor

/-!
# Numbers are written exactly

A finite number that is written with fixed places and without groups shows its sign bit and then the
digits of its exact value, rounded once in the last place: to the nearest integer, of two that are
equally near to the even one. There is one such text for each number and each count of places,
because digits without a superfluous zero in front are the digits of their value and of no other.
-/

namespace Calculator

open Number

/-! ## Numerals -/

namespace Number

/-- Digits without a superfluous zero in front. -/
structure IsNumeral (ds : List Char) : Prop where
  ne_nil : ds ≠ []
  isDigit : ∀ c ∈ ds, c.isDigit = true
  leading : ds.head? = some '0' → ds = ['0']

/-- A digit is the character of its value. -/
theorem digitChar_digitValue {c : Char} (h : c.isDigit = true) :
    digitValue c < 10 ∧ Nat.digitChar (digitValue c) = c := by
  simp only [Char.isDigit, Bool.and_eq_true, decide_eq_true_eq] at h
  have h48 : 48 ≤ c.toNat := h.1
  have h57 : c.toNat ≤ 57 := h.2
  have hlt : digitValue c < 10 := by
    rw [digitValue]
    omega
  refine ⟨hlt, Char.toNat_inj.mp ?_⟩
  rw [Nat.toNat_digitChar_of_lt_ten hlt, digitValue]
  omega

theorem valueOfDigits_concat (ds : List Char) (c : Char) :
    valueOfDigits (ds ++ [c]) = valueOfDigits ds * 10 + digitValue c := by
  simp [valueOfDigits]

theorem valueOfDigits_lt {ds : List Char} (h : ∀ c ∈ ds, c.isDigit = true) :
    valueOfDigits ds < 10 ^ ds.length := by
  induction ds using List.reverseRecOn with
  | nil => decide
  | append_singleton ds c ih =>
    have hc := (digitChar_digitValue (h c (by simp))).1
    have hds := ih fun d hd => h d (by simp [hd])
    rw [valueOfDigits_concat, List.length_append, List.length_singleton, Nat.pow_succ]
    omega

/-- The digits of a number, the last one apart. -/
theorem digitsOf_of_le {n : Nat} (h : 10 ≤ n) :
    digitsOf n = digitsOf (n / 10) ++ [Nat.digitChar (n % 10)] :=
  Nat.toDigits_of_base_le (by decide) h

theorem digitsOf_of_lt {n : Nat} (h : n < 10) : digitsOf n = [Nat.digitChar n] :=
  Nat.toDigits_of_lt_base h

theorem valueOfDigits_digitsOf (n : Nat) : valueOfDigits (digitsOf n) = n := by
  rw [valueOfDigits_eq]
  exact Nat.ofDigitChars_ten_toDigits

theorem digitsOf_ne_nil (n : Nat) : digitsOf n ≠ [] := Nat.toDigits_ne_nil

theorem isNumeral_digitsOf (n : Nat) : IsNumeral (digitsOf n) where
  ne_nil := digitsOf_ne_nil n
  isDigit _ hc := Nat.isDigit_of_mem_toDigits (by decide) (by decide) hc
  leading := by
    induction n using Nat.strongRecOn with
    | _ n ih =>
      intro h
      by_cases hlt : n < 10
      · rw [digitsOf_of_lt hlt] at h ⊢
        rw [List.head?_cons, Option.some.injEq] at h
        rw [h]
      · rw [digitsOf_of_le (by omega), List.head?_append_of_ne_nil _ (digitsOf_ne_nil _)] at h
        -- what stands before the last digit would be zero
        have hzero := congrArg valueOfDigits (ih (n / 10) (by omega) h)
        rw [valueOfDigits_digitsOf] at hzero
        change n / 10 = 0 at hzero
        omega

/-- **Uniqueness**: a numeral is the digits of its value. -/
theorem IsNumeral.digitsOf_eq {ds : List Char} (h : IsNumeral ds) :
    digitsOf (valueOfDigits ds) = ds := by
  induction ds using List.reverseRecOn with
  | nil => exact absurd rfl h.ne_nil
  | append_singleton ds c ih =>
    obtain ⟨hlt, hc⟩ := digitChar_digitValue (h.isDigit c (by simp))
    rw [valueOfDigits_concat]
    by_cases hnil : ds = []
    · subst hnil
      rw [show valueOfDigits [] * 10 + digitValue c = digitValue c from Nat.zero_add _,
        digitsOf_of_lt hlt, hc]
      rfl
    · -- the digits before the last one are a numeral too, and not that of zero
      have hhead : ds.head? ≠ some '0' := by
        intro hzero
        have hwhole := h.leading (by rw [List.head?_append_of_ne_nil _ hnil, hzero])
        have hlen := congrArg List.length hwhole
        have hpos := List.length_pos_iff.mpr hnil
        simp only [List.length_append, List.length_cons, List.length_nil] at hlen
        omega
      have hds := ih ⟨hnil, fun d hd => h.isDigit d (by simp [hd]), fun hzero => absurd hzero hhead⟩
      have hvalue : valueOfDigits ds ≠ 0 := by
        intro hzero
        rw [hzero] at hds
        exact hhead (by rw [← hds]; rfl)
      rw [digitsOf_of_le (by omega),
        show (valueOfDigits ds * 10 + digitValue c) / 10 = valueOfDigits ds by omega,
        show (valueOfDigits ds * 10 + digitValue c) % 10 = digitValue c by omega, hds, hc]

/-- Digits of one length are determined by their value. -/
theorem eq_of_valueOfDigits_eq {ds es : List Char} (hds : ∀ c ∈ ds, c.isDigit = true)
    (hes : ∀ c ∈ es, c.isDigit = true) (hlen : ds.length = es.length)
    (h : valueOfDigits ds = valueOfDigits es) : ds = es := by
  -- a one in front makes numerals of them
  have hnumeral : ∀ {fs : List Char}, (∀ c ∈ fs, c.isDigit = true) → IsNumeral ('1' :: fs) := by
    intro fs hfs
    refine ⟨List.cons_ne_nil _ _, fun c hc => ?_, fun hzero => ?_⟩
    · rcases List.mem_cons.mp hc with rfl | hc
      · rfl
      · exact hfs c hc
    · exact absurd (Option.some.inj hzero) (by decide)
  have hvalue : valueOfDigits ('1' :: ds) = valueOfDigits ('1' :: es) := by
    have happend := valueOfDigits_append ['1']
    rw [show '1' :: ds = ['1'] ++ ds from rfl, show '1' :: es = ['1'] ++ es from rfl, happend,
      happend, hlen, h]
  have heq := congrArg digitsOf hvalue
  rw [(hnumeral hds).digitsOf_eq, (hnumeral hes).digitsOf_eq] at heq
  exact List.tail_eq_of_cons_eq heq

/-! ## Rounding -/

/-- An integer is nearest to `q`, and of two that are equally near it is the even one. -/
structure IsRounded (q : ℚ) (n : Nat) : Prop where
  near : ∀ k : ℤ, |q - n| ≤ |q - k|
  even : ∀ k : ℤ, |q - k| = |q - n| → k = n ∨ n % 2 = 0

theorem IsRounded.half {q : ℚ} {n : Nat} (h : IsRounded q n) : |q - n| ≤ 1 / 2 :=
  (h.near (round q)).trans (abs_sub_round q)

/-- Only one integer is nearest and, if need be, even. -/
theorem IsRounded.unique {q : ℚ} {n m : Nat} (h : IsRounded q n) (h' : IsRounded q m) : n = m := by
  have heq : |q - m| = |q - n| := le_antisymm (h'.near n) (h.near m)
  rcases h.even m heq with hmn | hn
  · exact_mod_cast hmn.symm
  rcases h'.even n heq.symm with hnm | hm
  · exact_mod_cast hnm
  -- both are even, and they are at most one apart
  have hn' := abs_le.mp h.half
  have hm' := abs_le.mp h'.half
  have hlt : (n : ℚ) < m + 2 := by linarith
  have hlt' : (m : ℚ) < n + 2 := by linarith
  have hlt : n < m + 2 := by exact_mod_cast hlt
  have hlt' : m < n + 2 := by exact_mod_cast hlt'
  omega

/-- What is no more than a half away, and no half unless even, is rounded. -/
theorem isRounded_of_half {q : ℚ} {n : Nat} (hhalf : |q - n| ≤ 1 / 2)
    (heven : |q - n| = 1 / 2 → n % 2 = 0) : IsRounded q n := by
  have hfar : ∀ k : ℤ, k ≠ n → 1 / 2 ≤ |q - k| := by
    intro k hk
    have hone : (1 : ℚ) ≤ |(k : ℚ) - n| := by
      have : (1 : ℤ) ≤ |k - n| := Int.one_le_abs (sub_ne_zero.mpr hk)
      exact_mod_cast this
    have htriangle := abs_sub_le (k : ℚ) q n
    rw [abs_sub_comm (k : ℚ) q] at htriangle
    linarith
  refine ⟨fun k => ?_, fun k heq => ?_⟩
  · by_cases hk : k = n
    · rw [hk]
      exact le_rfl
    · exact hhalf.trans (hfar k hk)
  · by_cases hk : k = n
    · exact .inl hk
    · exact .inr (heven (le_antisymm hhalf (heq ▸ hfar k hk)))

/-- **The quotient is rounded once**, to the nearest integer and a half to the even one. -/
theorem isRounded_roundHalfEven {n d : Nat} (hd : 0 < d) :
    IsRounded ((n : ℚ) / d) (roundHalfEven n d) := by
  have hrounds := roundsTo_roundHalfEven hd n
  have hd' : (0 : ℚ) < d := by exact_mod_cast hd
  have hdist : |(n : ℚ) / d - roundHalfEven n d| =
      ((roundHalfEven n d * d).dist n : Nat) / d := by
    rw [cast_dist, Nat.cast_mul, ← abs_of_pos hd', ← abs_div, abs_of_pos hd', abs_sub_comm, sub_div,
      mul_div_cancel_right₀ _ hd'.ne']
  refine isRounded_of_half ?_ fun heq => hrounds.even ?_
  · rw [hdist, div_le_div_iff₀ hd' two_pos, one_mul, mul_comm]
    exact_mod_cast hrounds.near
  · rw [hdist, div_eq_div_iff hd'.ne' two_ne_zero, one_mul, mul_comm] at heq
    exact_mod_cast heq

end Number

/-! ## The text -/

/-- What is left of the digits of the places is a numeral. -/
theorem isNumeral_splitPlaces (places n : Nat) : IsNumeral (splitPlaces places n).1 where
  ne_nil := splitPlaces_ne_nil places n
  isDigit _ hc := isDigit_of_mem_splitPlaces places n (.inl hc)
  leading := by
    intro h
    simp only [splitPlaces, List.splitAt_eq] at h ⊢
    by_cases hshort : (digitsOf n).length ≤ places + 1
    · -- filled up with zeros to a single digit
      have hlen : (digitsPadded (places + 1) n).length = places + 1 := by
        simp only [digitsPadded, List.length_append, List.length_replicate]
        omega
      rw [hlen, Nat.add_sub_cancel_left] at h ⊢
      cases hds : digitsPadded (places + 1) n with
      | nil => rw [hds] at h; cases h
      | cons d ds =>
        rw [hds] at h
        cases h
        rfl
    · -- the digits of `n` are not filled up, and those of zero are no more than one
      have hpadded : digitsPadded (places + 1) n = digitsOf n := by
        rw [digitsPadded, Nat.sub_eq_zero_of_le (by omega)]
        rfl
      rw [hpadded, List.head?_take, if_neg (by omega)] at h
      have hlen := congrArg List.length ((isNumeral_digitsOf n).leading h)
      simp only [List.length_cons, List.length_nil] at hlen
      omega

namespace Binary64

/-- Two lists of digits, before and behind the point, write the absolute value of a number with
fixed places. -/
structure HasPlaces (x : Binary64) (places : Nat) (whole fraction : List Char) : Prop where
  numeral : IsNumeral whole
  isDigit : ∀ c ∈ fraction, c.isDigit = true
  length_eq : fraction.length = places
  rounded : IsRounded (|x.value| * 10 ^ places) (valueOfDigits (whole ++ fraction))

/-- A text writes a number with fixed places: a minus sign just if the sign bit is set, the digits
before the point, and, if there are places at all, the point and the digits behind it. -/
def IsWritten (x : Binary64) (places : Nat) (text : String) : Prop :=
  ∃ whole fraction, x.HasPlaces places whole fraction ∧
    text.toList = (if x.negative then ['-'] else []) ++ whole ++
      (if places = 0 then [] else '.' :: fraction)

/-- Only one pair of lists writes a number. -/
theorem HasPlaces.unique {x : Binary64} {places : Nat} {whole whole' fraction fraction' : List Char}
    (h : x.HasPlaces places whole fraction) (h' : x.HasPlaces places whole' fraction') :
    whole = whole' ∧ fraction = fraction' := by
  have hvalue := h.rounded.unique h'.rounded
  rw [valueOfDigits_append, valueOfDigits_append, h.length_eq, h'.length_eq] at hvalue
  have hlt := valueOfDigits_lt h.isDigit
  have hlt' := valueOfDigits_lt h'.isDigit
  rw [h.length_eq] at hlt
  rw [h'.length_eq] at hlt'
  have hpos : 0 < 10 ^ places := Nat.pow_pos (by decide)
  have hwhole : valueOfDigits whole = valueOfDigits whole' := by
    have hdiv := congrArg (· / 10 ^ places) hvalue
    simpa only [Nat.add_comm (_ * _), Nat.add_mul_div_right _ _ hpos, Nat.div_eq_of_lt hlt,
      Nat.div_eq_of_lt hlt', Nat.zero_add] using hdiv
  rw [hwhole, Nat.add_left_cancel_iff] at hvalue
  refine ⟨?_,
    eq_of_valueOfDigits_eq h.isDigit h'.isDigit (h.length_eq.trans h'.length_eq.symm) hvalue⟩
  rw [← h.numeral.digitsOf_eq, hwhole, h'.numeral.digitsOf_eq]

variable {x : Binary64}

/-- The absolute value, counted in the last place, is a quotient. -/
theorem abs_value_mul (x : Binary64) (places : Nat) :
    |x.value| * 10 ^ places = ((x.units * Nat.pow 10 places : Nat) : ℚ) / (unitsPerOne : Nat) := by
  have habs : |x.value| = x.units / 2 ^ 1074 := by
    have hnonneg := x.units_div_nonneg
    rw [value]
    generalize (x.units : ℚ) / 2 ^ 1074 = a at hnonneg ⊢
    split_ifs
    · rw [abs_neg, abs_of_nonneg hnonneg]
    · exact abs_of_nonneg hnonneg
  rw [habs, cast_unitsPerOne]
  generalize (2 : ℚ) ^ 1074 = one
  push_cast [Nat.pow_eq]
  ring

theorem hasPlaces_splitPlaces (x : Binary64) (places : Nat) :
    x.HasPlaces places (splitPlaces places (x.scaledBy places)).1
      (splitPlaces places (x.scaledBy places)).2 where
  numeral := isNumeral_splitPlaces places _
  isDigit _ hc := isDigit_of_mem_splitPlaces places _ (.inr hc)
  length_eq := length_splitPlaces places _
  rounded := by
    rw [splitPlaces_append, valueOfDigits_digitsPadded, abs_value_mul]
    exact isRounded_roundHalfEven unitsPerOne_pos

theorem isWritten_fixedText (h : x.isFinite = true) (places : Nat) :
    x.IsWritten places (x.fixedText places false) := by
  refine ⟨_, _, x.hasPlaces_splitPlaces places, ?_⟩
  rw [fixedText_of_isFinite h, unsignedText]
  by_cases hplaces : places = 0
  · cases x.negative <;> simp [hplaces]
  · cases x.negative <;> simp [hplaces]

theorem IsWritten.unique {places : Nat} {text text' : String} (h : x.IsWritten places text)
    (h' : x.IsWritten places text') : text = text' := by
  obtain ⟨whole, fraction, hplaces, htext⟩ := h
  obtain ⟨whole', fraction', hplaces', htext'⟩ := h'
  obtain ⟨rfl, rfl⟩ := hplaces.unique hplaces'
  rw [← String.toList_inj, htext, htext']

end Binary64

theorem formatNumber_eq_ok (x : Binary64) {precision : Int} (h : 0 ≤ precision)
    (hlt : precision < 2 ^ 31) (grouped : Bool) :
    formatNumber x precision grouped = .ok (x.fixedText precision.toNat grouped) := by
  rw [formatNumber, placesOf_eq_ok h hlt]

/-- **Numbers are written exactly**: without groups, the text of a finite number is the one text
that writes its sign bit and its exact absolute value, rounded to the nearest in the last place. -/
theorem formatNumber_writes (x : Binary64) (precision : Int) (hfinite : x.isFinite = true)
    (h : 0 ≤ precision) (hlt : precision < 2 ^ 31) :
    ∃ text, formatNumber x precision false = .ok text ∧
      ∀ text', x.IsWritten precision.toNat text' ↔ text' = text := by
  have hwritten := Binary64.isWritten_fixedText hfinite precision.toNat
  refine ⟨_, formatNumber_eq_ok x h hlt false, fun text' => ⟨fun htext => ?_, ?_⟩⟩
  · exact htext.unique hwritten
  · rintro rfl
    exact hwritten

/-- An eighth is halfway between two hundredths and goes to the even one, and a negative number that
is rounded to zero keeps its sign. -/
theorem formatNumber_writes_halfway :
    (⟨0x3FC0000000000000⟩ : Binary64).isFinite = true ∧
      formatNumber ⟨0x3FC0000000000000⟩ 2 false = .ok "0.12" ∧
      (∀ text, Binary64.IsWritten ⟨0x3FC0000000000000⟩ 2 text ↔ text = "0.12") ∧
      (⟨0xBF50624DD2F1A9FC⟩ : Binary64).isFinite = true ∧
      formatNumber ⟨0xBF50624DD2F1A9FC⟩ 2 false = .ok "-0.00" ∧
      ∀ text, Binary64.IsWritten ⟨0xBF50624DD2F1A9FC⟩ 2 text ↔ text = "-0.00" := by
  have heighth : (⟨0x3FC0000000000000⟩ : Binary64).isFinite = true := by decide
  have hsmall : (⟨0xBF50624DD2F1A9FC⟩ : Binary64).isFinite = true := by decide
  have htext : formatNumber ⟨0x3FC0000000000000⟩ 2 false = .ok "0.12" := by decide +kernel
  have htext' : formatNumber ⟨0xBF50624DD2F1A9FC⟩ 2 false = .ok "-0.00" := by decide +kernel
  obtain ⟨text, hok, hwritten⟩ := formatNumber_writes _ 2 heighth (by decide) (by decide)
  obtain ⟨text', hok', hwritten'⟩ := formatNumber_writes _ 2 hsmall (by decide) (by decide)
  cases htext.symm.trans hok
  cases htext'.symm.trans hok'
  exact ⟨heighth, htext, hwritten, hsmall, htext', hwritten'⟩

end Calculator
