import Calculator.Text.Utf8
import Mathlib.Data.Nat.Find

/-!
# Decoding, cut or whole

The decoder is a machine that steps on one byte. Two things are shown of it. Running it on pieces,
the state carried from one to the next, comes to running it on the bytes in one go. And what it
gives for the whole is what decoding with replacement means: `Repairs` says, in terms of the
encodings of characters alone, that bytes are read as characters, with one replacement for each
maximal subpart of an ill-formed sequence, and `repairs_iff` that the machine computes just that.
-/

namespace Calculator.Text.Utf8

/-! ## What decoding with replacement means -/

/-- The bytes that encode a character. -/
abbrev encoded (c : Char) : List UInt8 := String.utf8EncodeChar c

/-- The bytes of a whole text. -/
def encodedText (cs : List Char) : List UInt8 := cs.flatMap encoded

/-- The bytes begin the encoding of some character, or are all of it. -/
def Begins (part : List UInt8) : Prop := ∃ c, part <+: encoded c

/-- At a place where no character can be read, the longest stretch of bytes that begins an encoding;
a single byte if none does. -/
structure MaximalSubpart (part bytes : List UInt8) : Prop where
  front : part <+: bytes
  ne_nil : part ≠ []
  unreadable : ∀ c, ¬ encoded c <+: bytes
  opens : part.length = 1 ∨ Begins part
  longest : ∀ longer, longer <+: bytes → Begins longer → longer.length ≤ part.length

/-- The bytes read as characters, every maximal ill-formed subpart as one replacement. -/
inductive Repairs : List UInt8 → List Char → Prop where
  | nil : Repairs [] []
  | char (c : Char) {bytes : List UInt8} {cs : List Char} (h : Repairs bytes cs) :
      Repairs (encoded c ++ bytes) (c :: cs)
  | gap {part bytes : List UInt8} {cs : List Char} (hp : MaximalSubpart part (part ++ bytes))
      (h : Repairs bytes cs) : Repairs (part ++ bytes) (replacement :: cs)

/-- An encoded text is read as itself. -/
theorem repairs_encodedText (cs : List Char) : Repairs (encodedText cs) cs := by
  induction cs with
  | nil => exact .nil
  | cons c cs ih => exact .char c ih

/-! ## The machine on a list of bytes -/

theorem runOnto_eq (items : List Item) (s : State) (bytes : List UInt8) :
    runOnto items s bytes = ((run s bytes).1.reverse ++ items, (run s bytes).2) := by
  have h : ∀ (before items : List Item) (s : State),
      runOnto (items ++ before) s bytes =
        ((runOnto items s bytes).1 ++ before, (runOnto items s bytes).2) := by
    induction bytes with
    | nil => intro before items s; rfl
    | cons b bytes ih =>
      intro before items s
      simp only [runOnto]
      rw [← List.append_assoc, ih]
  have h' := h items [] s
  rw [List.nil_append] at h'
  simp only [run, h', List.reverse_reverse]

theorem run_cons (s : State) (b : UInt8) (bytes : List UInt8) :
    run s (b :: bytes) =
      ((step s b).1 ++ (run (step s b).2 bytes).1, (run (step s b).2 bytes).2) := by
  simp only [run, runOnto, List.append_nil]
  rw [runOnto_eq]
  simp [run]

theorem run_append (s : State) (bytes more : List UInt8) :
    run s (bytes ++ more) =
      ((run s bytes).1 ++ (run (run s bytes).2 more).1, (run (run s bytes).2 more).2) := by
  induction bytes generalizing s with
  | nil => rfl
  | cons b bytes ih => simp [run_cons, ih]

/-- All items from a state to the end of the bytes. -/
def itemsFrom (s : State) (bytes : List UInt8) : List Item :=
  (run s bytes).1 ++ flush (run s bytes).2

theorem itemsFrom_nil (s : State) : itemsFrom s [] = flush s := rfl

theorem itemsFrom_cons (s : State) (b : UInt8) (bytes : List UInt8) :
    itemsFrom s (b :: bytes) = (step s b).1 ++ itemsFrom (step s b).2 bytes := by
  simp [itemsFrom, run_cons]

theorem items_eq (bytes : List UInt8) : items bytes = itemsFrom .start bytes := rfl

/-! ## The bytes that may follow a first byte -/

/-- The bytes may follow where so many are missing, the first of them within the bounds. -/
inductive Fits : Nat → Nat → Nat → List UInt8 → Prop where
  | nil {missing low high : Nat} : Fits missing low high []
  | cons {missing low high : Nat} {b : UInt8} {tail : List UInt8} (hlow : low ≤ b.toNat)
      (hhigh : b.toNat ≤ high) (h : Fits missing 0x80 0xBF tail) :
      Fits (missing + 1) low high (b :: tail)

/-- The value of a sequence, from what was gathered before its tail. -/
def valueOf (value : Nat) (tail : List UInt8) : Nat :=
  tail.foldl (fun value b => value * 64 + (b.toNat - 0x80)) value

theorem Fits.length_le {m low high : Nat} {tail : List UInt8} (h : Fits m low high tail) :
    tail.length ≤ m := by
  induction h with
  | nil => exact Nat.zero_le _
  | cons _ _ _ ih => simpa using ih

theorem Fits.of_append {m low high : Nat} {tail more : List UInt8}
    (h : Fits m low high (tail ++ more)) : Fits m low high tail := by
  induction tail generalizing m low high with
  | nil => exact .nil
  | cons b tail ih =>
    cases h with
    | cons hlow hhigh h => exact .cons hlow hhigh (ih h)

theorem exists_fits (m : Nat) : ∃ tail, Fits m 0x80 0xBF tail ∧ tail.length = m := by
  induction m with
  | zero => exact ⟨[], .nil, rfl⟩
  | succ m ih =>
    obtain ⟨tail, h, hlen⟩ := ih
    exact ⟨0x80 :: tail, .cons (by decide) (by decide) h, by simp [hlen]⟩

/-- What fits can be completed, the least byte taken each time. -/
theorem Fits.exists_full {m low high : Nat} {tail : List UInt8} (h : Fits m low high tail)
    (hbounds : low ≤ high) (hbyte : high < 256) :
    ∃ more, Fits m low high (tail ++ more) ∧ (tail ++ more).length = m := by
  induction h with
  | @nil m low high =>
    cases m with
    | zero => exact ⟨[], .nil, rfl⟩
    | succ m =>
      -- the bounds concern the first byte only
      obtain ⟨more, hm, hlen⟩ := exists_fits m
      have hb : (UInt8.ofNat low).toNat = low := by simp; omega
      exact ⟨UInt8.ofNat low :: more, .cons (by omega) (by omega) hm, by simp [hlen]⟩
  | cons hlow hhigh _ ih =>
    obtain ⟨more, hm, hlen⟩ := ih (by decide) (by decide)
    exact ⟨more, .cons hlow hhigh hm, by simpa using hlen⟩

/-- A sequence that its tail completes is one character. -/
theorem itemsFrom_full {m low high : Nat} {tail : List UInt8} (h : Fits m low high tail)
    (hlen : tail.length = m) (hm : 0 < m) (value : Nat) (bytes : List UInt8) :
    itemsFrom (.within value m low high) (tail ++ bytes) =
      some (Char.ofNat (valueOf value tail)) :: itemsFrom .start bytes := by
  induction h generalizing value with
  | nil => simp at hlen; omega
  | @cons m low high b tail hlow hhigh h ih =>
    have hlen : tail.length = m := by simpa using hlen
    rw [List.cons_append, itemsFrom_cons]
    cases m with
    | zero =>
      have : tail = [] := List.eq_nil_of_length_eq_zero hlen
      subst this
      simp [step, hlow, hhigh, valueOf]
    | succ m => simp [step, hlow, hhigh, ih hlen (Nat.succ_pos m), valueOf]

/-- A sequence that the next byte does not go on with is one gap. -/
theorem itemsFrom_broken {m low high : Nat} {tail bytes : List UInt8} (h : Fits m low high tail)
    (hshort : tail.length < m) (hnext : ∀ b ∈ bytes.head?, ¬ Fits m low high (tail ++ [b]))
    (value : Nat) :
    itemsFrom (.within value m low high) (tail ++ bytes) = none :: itemsFrom .start bytes := by
  induction h generalizing value with
  | @nil m low high =>
    obtain ⟨m, rfl⟩ : ∃ m', m = m' + 1 := ⟨m - 1, by simp at hshort; omega⟩
    cases bytes with
    | nil => rfl
    | cons b bytes =>
      have hb : ¬ (low ≤ b.toNat ∧ b.toNat ≤ high) := fun hb =>
        hnext b rfl (.cons hb.1 hb.2 .nil)
      simp only [List.nil_append, itemsFrom_cons, step, if_neg hb, List.cons_append]
  | @cons m low high b tail hlow hhigh h ih =>
    have hshort : tail.length < m := by simpa using hshort
    have hm : ¬ m = 0 := by omega
    rw [List.cons_append, itemsFrom_cons]
    simp [step, hlow, hhigh, hm, ih hshort fun b hb hf => hnext b hb (.cons hlow hhigh hf)]

/-! ## The encodings of characters -/

/-- A first byte, with what it gathers, how many bytes it asks for and the bounds of the next. -/
inductive Opening : Nat → Nat → Nat → Nat → Nat → Prop where
  | two {value : Nat} (hlow : 2 ≤ value) (h : value < 32) :
      Opening (0xC0 + value) value 1 0x80 0xBF
  | three {value : Nat} (h : value < 16) :
      Opening (0xE0 + value) value 2 (if value = 0 then 0xA0 else 0x80)
        (if value = 13 then 0x9F else 0xBF)
  | four {value : Nat} (h : value < 5) :
      Opening (0xF0 + value) value 3 (if value = 0 then 0x90 else 0x80)
        (if value = 4 then 0x8F else 0xBF)

theorem Opening.lead_eq {b value m low high : Nat} (h : Opening b value m low high) :
    lead b = ([], .within value m low high) := by
  cases h with
  | two hlow h =>
    rw [lead, if_neg (by omega), if_neg (by omega), if_pos (by omega), Nat.add_sub_cancel_left]
  | three h =>
    by_cases h0 : value = 0
    · subst h0; rfl
    by_cases h13 : value = 13
    · subst h13; rfl
    rw [lead, if_neg (by omega), if_neg (by omega), if_neg (by omega), if_neg (by omega),
      if_neg (by omega), if_pos (by omega), if_neg h0, if_neg h13, Nat.add_sub_cancel_left]
  | four h =>
    by_cases h0 : value = 0
    · subst h0; rfl
    by_cases h4 : value = 4
    · subst h4; rfl
    rw [lead, if_neg (by omega), if_neg (by omega), if_neg (by omega), if_neg (by omega),
      if_neg (by omega), if_neg (by omega), if_neg (by omega), if_pos (by omega), if_neg h0,
      if_neg h4, Nat.add_sub_cancel_left]

theorem Opening.bounds {b value m low high : Nat} (h : Opening b value m low high) :
    0 < m ∧ low ≤ high ∧ high < 256 ∧ 0x80 ≤ b := by
  cases h <;> (try split_ifs) <;> omega

/-- A byte is a character of its own, or opens a sequence, or cannot start anything. -/
theorem lead_cases (b : Nat) :
    b < 0x80 ∨ (∃ value m low high, Opening b value m low high) ∨
      (0x80 ≤ b ∧ lead b = ([none], .start)) := by
  by_cases h1 : b < 0x80
  · exact .inl h1
  by_cases h2 : 0xC2 ≤ b ∧ b < 0xE0
  · obtain ⟨value, rfl⟩ : ∃ value, b = 0xC0 + value := ⟨b - 0xC0, by omega⟩
    exact .inr (.inl ⟨value, _, _, _, .two (by omega) (by omega)⟩)
  by_cases h3 : 0xE0 ≤ b ∧ b < 0xF0
  · obtain ⟨value, rfl⟩ : ∃ value, b = 0xE0 + value := ⟨b - 0xE0, by omega⟩
    exact .inr (.inl ⟨value, _, _, _, .three (by omega)⟩)
  by_cases h4 : 0xF0 ≤ b ∧ b < 0xF5
  · obtain ⟨value, rfl⟩ : ∃ value, b = 0xF0 + value := ⟨b - 0xF0, by omega⟩
    exact .inr (.inl ⟨value, _, _, _, .four (by omega)⟩)
  refine .inr (.inr ⟨by omega, ?_⟩)
  rw [lead, if_neg h1]
  by_cases h5 : b < 0xC2
  · rw [if_pos h5]
  · rw [if_neg h5, if_neg (by omega), if_neg (by omega), if_neg (by omega), if_neg (by omega),
      if_neg (by omega), if_neg (by omega), if_neg (by omega)]

/-- The encoding of a code point, by its size. -/
theorem encoded_ofNat {n : Nat} (h : n.isValidChar) :
    encoded (Char.ofNat n) =
      if n ≤ 0x7f then [UInt8.ofNat n]
      else if n ≤ 0x7ff then [UInt8.ofNat (n / 64 % 32 + 0xc0), UInt8.ofNat (n % 64 + 0x80)]
      else if n ≤ 0xffff then
        [UInt8.ofNat (n / 4096 % 16 + 0xe0), UInt8.ofNat (n / 64 % 64 + 0x80),
          UInt8.ofNat (n % 64 + 0x80)]
      else
        [UInt8.ofNat (n / 262144 % 8 + 0xf0), UInt8.ofNat (n / 4096 % 64 + 0x80),
          UInt8.ofNat (n / 64 % 64 + 0x80), UInt8.ofNat (n % 64 + 0x80)] := by
  have hn : (Char.ofNat n).val.toNat = n := by
    rw [Char.ofNat, dif_pos h]
    rfl
  simp only [encoded, String.utf8EncodeChar, hn]

theorem ofNat_eq {b : UInt8} {n : Nat} (h : n = b.toNat) : UInt8.ofNat n = b := by
  subst h
  exact UInt8.ofNat_toNat

theorem encoded_ascii {b : UInt8} (h : b.toNat < 0x80) : encoded (Char.ofNat b.toNat) = [b] := by
  rw [encoded_ofNat (.inl (by omega)), if_pos (by omega), UInt8.ofNat_toNat]

/-- What opens a sequence and completes it is the encoding of the value that it gathers. -/
theorem encoded_full {b : UInt8} {value m low high : Nat} {tail : List UInt8}
    (h : Opening b.toNat value m low high) (hf : Fits m low high tail) (hlen : tail.length = m) :
    encoded (Char.ofNat (valueOf value tail)) = b :: tail := by
  generalize hb : b.toNat = first at h
  cases h with
  | two hlow h =>
    obtain _ | @⟨_, _, _, b1, _, h1, h1', _ | _⟩ := hf
    · simp at hlen
    generalize hn : valueOf value [b1] = n
    replace hn : value * 64 + (b1.toNat - 0x80) = n := hn
    have hv : n.isValidChar := .inl (by omega)
    rw [encoded_ofNat hv, if_neg (by omega), if_pos (by omega)]
    rw [ofNat_eq (b := b) (by omega), ofNat_eq (b := b1) (by omega)]
  | three h =>
    obtain _ | @⟨_, _, _, b1, _, h1, h1', _ | @⟨_, _, _, b2, _, h2, h2', _ | _⟩⟩ := hf
    · simp at hlen
    · simp at hlen
    generalize hn : valueOf value [b1, b2] = n
    replace hn : (value * 64 + (b1.toNat - 0x80)) * 64 + (b2.toNat - 0x80) = n := hn
    have hlow : 0x80 ≤ b1.toNat ∧ 0x7ff < n := by split_ifs at h1 <;> omega
    have hhigh : b1.toNat ≤ 0xBF ∧ n ≤ 0xffff := by split_ifs at h1' <;> omega
    have hv : n < 0xd800 ∨ 0xdfff < n ∧ n < 0x110000 := by split_ifs at h1' <;> omega
    clear h1 h1'
    rw [encoded_ofNat hv, if_neg (by omega), if_neg (by omega), if_pos (by omega)]
    rw [ofNat_eq (b := b) (by omega), ofNat_eq (b := b1) (by omega), ofNat_eq (b := b2) (by omega)]
  | four h =>
    obtain _ | @⟨_, _, _, b1, _, h1, h1', _ | @⟨_, _, _, b2, _, h2, h2', _ |
      @⟨_, _, _, b3, _, h3, h3', _ | _⟩⟩⟩ := hf
    · simp at hlen
    · simp at hlen
    · simp at hlen
    generalize hn : valueOf value [b1, b2, b3] = n
    replace hn : ((value * 64 + (b1.toNat - 0x80)) * 64 + (b2.toNat - 0x80)) * 64 +
      (b3.toNat - 0x80) = n := hn
    have hlow : 0x80 ≤ b1.toNat ∧ 0xffff < n := by split_ifs at h1 <;> omega
    have hhigh : b1.toNat ≤ 0xBF ∧ n < 0x110000 := by split_ifs at h1' <;> omega
    clear h1 h1'
    have hv : n.isValidChar := .inr (by omega)
    rw [encoded_ofNat hv, if_neg (by omega), if_neg (by omega), if_neg (by omega)]
    rw [ofNat_eq (b := b) (by omega), ofNat_eq (b := b1) (by omega), ofNat_eq (b := b2) (by omega),
      ofNat_eq (b := b3) (by omega)]

/-- The encoding of a character beyond the first ones opens a sequence and completes it. -/
theorem encoded_cases (c : Char) :
    (∃ b, encoded c = [b] ∧ b.toNat < 0x80 ∧ b.toNat = c.toNat) ∨
      ∃ b value m low high tail, encoded c = b :: tail ∧ Opening b.toNat value m low high ∧
        Fits m low high tail ∧ tail.length = m ∧ valueOf value tail = c.toNat := by
  have hv : c.toNat < 0xd800 ∨ 0xdfff < c.toNat ∧ c.toNat < 0x110000 := c.valid
  rw [← Char.ofNat_toNat c, encoded_ofNat hv, Char.ofNat_toNat]
  generalize c.toNat = n at hv
  have hbyte {k : Nat} (h : k < 256) : (UInt8.ofNat k).toNat = k := by simp; omega
  by_cases h1 : n ≤ 0x7f
  · exact .inl ⟨UInt8.ofNat n, by rw [if_pos h1], by rw [hbyte] <;> omega, by rw [hbyte]; omega⟩
  refine .inr ?_
  by_cases h2 : n ≤ 0x7ff
  · rw [if_neg h1, if_pos h2]
    have hb : (UInt8.ofNat (n / 64 % 32 + 0xc0)).toNat = 0xc0 + n / 64 := by rw [hbyte] <;> omega
    have ho : Opening (0xc0 + n / 64) _ _ _ _ := .two (by omega) (by omega)
    rw [← hb] at ho
    refine ⟨_, _, _, _, _, _, rfl, ho, ?_, rfl, ?_⟩
    · refine .cons ?_ ?_ .nil <;> rw [hbyte] <;> omega
    · simp only [valueOf, List.foldl]
      rw [hbyte] <;> omega
  by_cases h3 : n ≤ 0xffff
  · rw [if_neg h1, if_neg h2, if_pos h3]
    have hb : (UInt8.ofNat (n / 4096 % 16 + 0xe0)).toNat = 0xe0 + n / 4096 := by rw [hbyte] <;> omega
    have ho : Opening (0xe0 + n / 4096) _ _ _ _ := .three (by omega)
    rw [← hb] at ho
    refine ⟨_, _, _, _, _, _, rfl, ho, ?_, rfl, ?_⟩
    · refine .cons ?_ ?_ (.cons ?_ ?_ .nil) <;> rw [hbyte (by omega)] <;> (try split_ifs) <;> omega
    · simp only [valueOf, List.foldl]
      rw [hbyte (by omega), hbyte (by omega)]
      omega
  · rw [if_neg h1, if_neg h2, if_neg h3]
    have hb : (UInt8.ofNat (n / 262144 % 8 + 0xf0)).toNat = 0xf0 + n / 262144 := by rw [hbyte] <;> omega
    have ho : Opening (0xf0 + n / 262144) _ _ _ _ := .four (by omega)
    rw [← hb] at ho
    refine ⟨_, _, _, _, _, _, rfl, ho, ?_, rfl, ?_⟩
    · refine .cons ?_ ?_ (.cons ?_ ?_ (.cons ?_ ?_ .nil)) <;> rw [hbyte (by omega)] <;>
        (try split_ifs) <;> omega
    · simp only [valueOf, List.foldl]
      rw [hbyte (by omega), hbyte (by omega), hbyte (by omega)]
      omega

theorem Opening.unique {b v m low high v' m' low' high' : Nat} (h : Opening b v m low high)
    (h' : Opening b v' m' low' high') : v = v' ∧ m = m' ∧ low = low' ∧ high = high' := by
  have heq := h.lead_eq.symm.trans h'.lead_eq
  simpa using heq

/-! ## What begins an encoding -/

theorem fits_of_begins {b : UInt8} {value m low high : Nat} {tail : List UInt8}
    (ho : Opening b.toNat value m low high) (h : Begins (b :: tail)) : Fits m low high tail := by
  obtain ⟨c, hc⟩ := h
  rcases encoded_cases c with ⟨b', heq, hb', -⟩ | ⟨b', _, _, _, _, tail', heq, ho', hf, -, -⟩
  · rw [heq, List.cons_prefix_cons] at hc
    have hb := ho.bounds.2.2.2
    rw [hc.1] at hb
    omega
  · rw [heq, List.cons_prefix_cons] at hc
    obtain ⟨rfl, more, rfl⟩ := hc
    obtain ⟨-, rfl, rfl, rfl⟩ := ho.unique ho'
    exact hf.of_append

theorem begins_of_fits {b : UInt8} {value m low high : Nat} {tail : List UInt8}
    (ho : Opening b.toNat value m low high) (h : Fits m low high tail) : Begins (b :: tail) := by
  obtain ⟨more, hf, hlen⟩ := h.exists_full ho.bounds.2.1 ho.bounds.2.2.1
  refine ⟨Char.ofNat (valueOf value (tail ++ more)), ?_⟩
  rw [encoded_full ho hf hlen]
  exact ⟨more, rfl⟩

theorem not_begins {b : UInt8} (hb : 0x80 ≤ b.toNat) (h : lead b.toNat = ([none], .start))
    (tail : List UInt8) : ¬ Begins (b :: tail) := by
  rintro ⟨c, hc⟩
  rcases encoded_cases c with ⟨b', heq, hb', -⟩ | ⟨b', _, _, _, _, tail', heq, ho', -⟩
  · rw [heq, List.cons_prefix_cons] at hc
    rw [hc.1] at hb
    omega
  · rw [heq, List.cons_prefix_cons] at hc
    rw [hc.1, ho'.lead_eq] at h
    simp at h

/-! ## The machine decodes -/

theorem itemsFrom_encoded (c : Char) (bytes : List UInt8) :
    itemsFrom .start (encoded c ++ bytes) = some c :: itemsFrom .start bytes := by
  rcases encoded_cases c with ⟨b, heq, hb, hc⟩ | ⟨b, _, _, _, _, tail, heq, ho, hf, hlen, hc⟩
  · rw [heq, List.singleton_append, itemsFrom_cons]
    simp [step, lead, hc ▸ hb, hc]
  · rw [heq, List.cons_append, itemsFrom_cons]
    simp [step, ho.lead_eq, itemsFrom_full hf hlen ho.bounds.1, hc]

/-- A maximal subpart is one gap. -/
theorem itemsFrom_gap {part bytes : List UInt8} (h : MaximalSubpart part (part ++ bytes)) :
    itemsFrom .start (part ++ bytes) = none :: itemsFrom .start bytes := by
  obtain ⟨b, tail, rfl⟩ := List.exists_cons_of_ne_nil h.ne_nil
  rcases lead_cases b.toNat with hb | ⟨value, m, low, high, ho⟩ | ⟨hb, hlead⟩
  · exact absurd ⟨tail ++ bytes, by rw [encoded_ascii hb]; rfl⟩ (h.unreadable (Char.ofNat b.toNat))
  · have hf : Fits m low high tail := by
      rcases h.opens with hlen | hbegins
      · obtain rfl : tail = [] := List.eq_nil_of_length_eq_zero (by simpa using hlen)
        exact .nil
      · exact fits_of_begins ho hbegins
    -- a tail of full length would make a character that can be read
    have hshort : tail.length < m := by
      refine Nat.lt_of_le_of_ne hf.length_le fun hlen => ?_
      refine h.unreadable (Char.ofNat (valueOf value tail)) ?_
      rw [encoded_full ho hf hlen]
      exact ⟨bytes, rfl⟩
    -- and a byte that goes on would make the part longer
    have hnext : ∀ b' ∈ bytes.head?, ¬ Fits m low high (tail ++ [b']) := by
      intro b' hb' hf'
      obtain ⟨rest, rfl⟩ : ∃ rest, bytes = b' :: rest := by
        cases bytes with
        | nil => simp at hb'
        | cons b'' rest =>
          obtain rfl : b'' = b' := by simpa using hb'
          exact ⟨rest, rfl⟩
      have hlong := h.longest (b :: (tail ++ [b'])) ⟨rest, by simp⟩ (begins_of_fits ho hf')
      simp only [List.length_cons, List.length_append] at hlong
      omega
    rw [List.cons_append, itemsFrom_cons]
    simp [step, ho.lead_eq, itemsFrom_broken hf hshort hnext]
  · obtain rfl : tail = [] := by
      rcases h.opens with hlen | hbegins
      · exact List.eq_nil_of_length_eq_zero (by simpa using hlen)
      · exact absurd hbegins (not_begins hb hlead tail)
    rw [List.singleton_append, itemsFrom_cons]
    simp [step, hlead]

theorem decodeRepairing_of_repairs {bytes : List UInt8} {cs : List Char} (h : Repairs bytes cs) :
    decodeRepairing bytes = cs := by
  rw [decodeRepairing, items_eq]
  induction h with
  | nil => rfl
  | char c _ ih =>
    rw [itemsFrom_encoded, ← ih]
    rfl
  | gap hp _ ih =>
    rw [itemsFrom_gap hp, ← ih]
    rfl

/-! ## Every bytes have a reading -/

/-- Where no character can be read there is a maximal subpart. -/
theorem exists_maximalSubpart {bytes : List UInt8} (hne : bytes ≠ [])
    (hread : ∀ c, ¬ encoded c <+: bytes) : ∃ part rest, bytes = part ++ rest ∧
      MaximalSubpart part bytes := by
  classical
  let n := Nat.findGreatest (fun n => Begins (bytes.take n)) bytes.length
  have hlen : 0 < bytes.length := List.length_pos_iff.mpr hne
  have hn : n ≤ bytes.length := Nat.findGreatest_le _
  refine ⟨bytes.take (max n 1), bytes.drop (max n 1), (List.take_append_drop _ _).symm, ?_⟩
  refine ⟨List.take_prefix _ _, ?_, hread, ?_, ?_⟩
  · intro h
    have := congrArg List.length h
    rw [List.length_take, List.length_nil] at this
    omega
  · by_cases h1 : n ≤ 1
    · left
      rw [List.length_take]
      omega
    · right
      rw [Nat.max_eq_left (by omega)]
      exact Nat.findGreatest_spec (P := fun n => Begins (bytes.take n)) (Nat.zero_le _)
        ⟨default, by simp⟩
  · intro longer hlonger hbegins
    rw [List.length_take]
    have htake : bytes.take longer.length = longer := (List.prefix_iff_eq_take.mp hlonger).symm
    have : longer.length ≤ n :=
      Nat.le_findGreatest hlonger.length_le (by rw [htake]; exact hbegins)
    omega

theorem encoded_ne_nil (c : Char) : encoded c ≠ [] := by
  rcases encoded_cases c with ⟨b, heq, -⟩ | ⟨b, _, _, _, _, tail, heq, -⟩ <;> simp [heq]

theorem exists_repairs (bytes : List UInt8) : ∃ cs, Repairs bytes cs := by
  induction hlen : bytes.length using Nat.strongRecOn generalizing bytes with
  | ind n ih =>
    subst hlen
    by_cases hne : bytes = []
    · subst hne
      exact ⟨[], .nil⟩
    by_cases hread : ∃ c, encoded c <+: bytes
    · obtain ⟨c, rest, rfl⟩ := hread
      have hpos := List.length_pos_iff.mpr (encoded_ne_nil c)
      obtain ⟨cs, hcs⟩ := ih rest.length (by rw [List.length_append]; omega) rest rfl
      exact ⟨c :: cs, .char c hcs⟩
    · obtain ⟨part, rest, rfl, hp⟩ := exists_maximalSubpart hne fun c hc => hread ⟨c, hc⟩
      have hpos := List.length_pos_iff.mpr hp.ne_nil
      obtain ⟨cs, hcs⟩ := ih rest.length (by rw [List.length_append]; omega) rest rfl
      exact ⟨replacement :: cs, .gap hp hcs⟩

/-- The machine computes what decoding with replacement means. -/
theorem repairs_iff {bytes : List UInt8} {cs : List Char} :
    Repairs bytes cs ↔ decodeRepairing bytes = cs := by
  refine ⟨decodeRepairing_of_repairs, ?_⟩
  rintro rfl
  obtain ⟨cs, hcs⟩ := exists_repairs bytes
  rwa [decodeRepairing_of_repairs hcs]

theorem decodeRepairing_encodedText (cs : List Char) : decodeRepairing (encodedText cs) = cs :=
  decodeRepairing_of_repairs (repairs_encodedText cs)

/-! ## Decoding without repair -/

theorem decode?_encodedText (cs : List Char) : decode? (encodedText cs) = some cs := by
  rw [decode?, items_eq]
  induction cs with
  | nil => rfl
  | cons c cs ih =>
    show (itemsFrom .start (encoded c ++ encodedText cs)).mapM id = some (c :: cs)
    rw [itemsFrom_encoded, List.mapM_cons, ih]
    rfl

/-- What is decoded without repair has no gap to be repaired. -/
theorem eq_encodedText_of_repairs {bytes : List UInt8} {cs repaired : List Char}
    (h : Repairs bytes repaired) (hcs : decode? bytes = some cs) : bytes = encodedText cs := by
  rw [decode?, items_eq] at hcs
  induction h generalizing cs with
  | nil =>
    cases hcs
    rfl
  | char c _ ih =>
    rw [itemsFrom_encoded, List.mapM_cons] at hcs
    obtain ⟨more, hmore, heq⟩ := Option.bind_eq_some_iff.mp hcs
    obtain ⟨cs', hcs', hmade⟩ := Option.bind_eq_some_iff.mp heq
    cases hmore
    cases hmade
    rw [ih hcs']
    rfl
  | gap hp _ _ =>
    rw [itemsFrom_gap hp] at hcs
    cases hcs

/-- Only an encoded text is decoded without repair, and as itself. -/
theorem decode?_eq_some {bytes : List UInt8} {cs : List Char} :
    decode? bytes = some cs ↔ bytes = encodedText cs := by
  constructor
  · obtain ⟨repaired, h⟩ := exists_repairs bytes
    exact eq_encodedText_of_repairs h
  · rintro rfl
    exact decode?_encodedText cs

end Calculator.Text.Utf8
