import Calculator.Settings.Load
import Mathlib.Data.List.TakeDrop

/-!
# Why a document is not read

A reader takes characters from the front of a text and leaves the rest. If it fails for another
reason than that the rules of the format are broken, the reason stands in the text: a whole number
has too many digits, or there are so many opening brackets and braces that they would take more
frames than there are, were each opened within the one before it.
-/

namespace Calculator.Toml

/-! ## Reasons that stand in a text -/

/-- The frames that all openings of a text would take within one another. -/
def framesOfAll : List Char → Nat
  | [] => 0
  | c :: cs => framesOf c + framesOfAll cs

/-- A stretch of digits, perhaps with underscores, holds so many digits. -/
def HoldsDigits (cs : List Char) (n : Nat) : Prop :=
  ∃ run, run <:+: cs ∧ (∀ c ∈ run, c.isDigit = true ∨ c = '_') ∧ run.countP Char.isDigit = n

/-- What in a text accounts for an error, where a value may take so many frames. -/
def Accounts (frames : Nat) (cs : List Char) : Error → Prop
  | .invalid => True
  | .tooDeep => frames < framesOfAll cs
  | .integerTooLong n => Number.maxDigits < n ∧ HoldsDigits cs n

/-- A reader leaves the end of a text, or the text accounts for its error. What is left is a part of
what is read. -/
def Reads {α : Type} (left : α → List Char) (frames : Nat) (cs : List Char) (r : Except Error α) :
    Prop :=
  match r with
  | .ok x => left x <:+ cs
  | .error e => Accounts frames cs e

/-- What a reader reads, if it does, leaves the end of a text. -/
def Leaves {α : Type} (left : α → List Char) (cs : List Char) (r : Option α) : Prop :=
  ∀ x, r = some x → left x <:+ cs

section Reads

variable {α β : Type} {left : α → List Char} {left' : β → List Char} {frames : Nat}
  {c : Char} {cs rest : List Char} {e : Error}

theorem framesOfAll_append (before cs : List Char) :
    framesOfAll (before ++ cs) = framesOfAll before + framesOfAll cs := by
  induction before with
  | nil => exact (Nat.zero_add _).symm
  | cons c before ih =>
    rw [List.cons_append, framesOfAll, framesOfAll, ih, Nat.add_assoc]

theorem Accounts.of_suffix (h : Accounts frames rest e) (hrest : rest <:+ cs) :
    Accounts frames cs e := by
  cases e with
  | invalid => trivial
  | tooDeep =>
    obtain ⟨before, rfl⟩ := hrest
    show frames < framesOfAll (before ++ rest)
    rw [framesOfAll_append]
    exact Nat.lt_add_left _ h
  | integerTooLong n =>
    obtain ⟨hlong, run, hrun, hdigits⟩ := h
    exact ⟨hlong, run, hrun.trans hrest.isInfix, hdigits⟩

theorem Accounts.opened (h : Accounts frames cs e) :
    Accounts (frames + framesOf c) (c :: cs) e := by
  cases e with
  | invalid => trivial
  | tooDeep =>
    show frames + framesOf c < framesOfAll (c :: cs)
    rw [framesOfAll, Nat.add_comm]
    exact Nat.add_lt_add_left h _
  | integerTooLong n =>
    -- frames play no part here
    have haccounts : Accounts (frames + framesOf c) cs (.integerTooLong n) := h
    exact haccounts.of_suffix (List.suffix_cons c cs)

theorem Reads.of_suffix {r : Except Error α} (h : Reads left frames rest r) (hrest : rest <:+ cs) :
    Reads left frames cs r := by
  cases r with
  | ok x => exact List.IsSuffix.trans h hrest
  | error e => exact Accounts.of_suffix h hrest

theorem Reads.invalid : Reads left frames cs (.error .invalid) := trivial

theorem Reads.here {x : α} : Reads left frames (left x) (.ok x) := List.suffix_rfl

theorem Reads.ok {x : α} (h : left x <:+ cs) : Reads left frames cs (.ok x) := h

theorem Reads.of_ok {r : Except Error α} {x : α} (h : Reads left frames cs r) (hr : r = .ok x) :
    left x <:+ cs := by
  subst hr
  exact h

theorem Reads.of_error {r : Except Error α} (h : Reads left frames cs r) (hr : r = .error e) :
    Reads left' frames cs (.error e) := by
  subst hr
  exact h

/-- A character in front of what is read. -/
theorem Reads.behind {r : Except Error α} (h : Reads left frames cs r) :
    Reads left frames (c :: cs) r :=
  h.of_suffix (List.suffix_cons c cs)

/-- What opens a value accounts for the frames that it takes. -/
theorem Reads.opened {r : Except Error α} (h : Reads left frames cs r) :
    Reads left (frames + framesOf c) (c :: cs) r := by
  cases r with
  | ok x => exact List.IsSuffix.trans h (List.suffix_cons c cs)
  | error e => exact Accounts.opened h

/-- What takes more frames than there are accounts for that. -/
theorem Reads.tooDeep (h : ∀ more, frames = more + framesOf c → False) :
    Reads left frames (c :: cs) (.error .tooDeep) := by
  show frames < framesOfAll (c :: cs)
  refine Nat.lt_of_not_le fun hle => ?_
  rw [framesOfAll, Nat.add_comm] at hle
  exact h (frames - framesOf c) (by omega)

theorem Reads.bind {r : Except Error α} {next : α → Except Error β} (h : Reads left frames cs r)
    (hnext : ∀ x, Reads left' frames (left x) (next x)) :
    Reads left' frames cs (r >>= next) := by
  cases r with
  | ok x => exact (hnext x).of_suffix h
  | error e => exact h

theorem Reads.map {r : Except Error α} {f : α → β} (h : Reads left frames cs r)
    (hf : ∀ x, left' (f x) = left x) : Reads left' frames cs (r.map f) := by
  cases r with
  | ok x =>
    show left' (f x) <:+ cs
    rw [hf]
    exact h
  | error e => exact h

theorem Leaves.of_suffix {r : Option α} (h : Leaves left rest r) (hrest : rest <:+ cs) :
    Leaves left cs r :=
  fun x hx => (h x hx).trans hrest

theorem Leaves.none : Leaves left cs none := nofun

theorem Leaves.some {x : α} (h : left x <:+ cs) : Leaves left cs (some x) := by
  rintro _ ⟨rfl⟩
  exact h

theorem Leaves.bind {r : Option α} {next : α → Option β} (h : Leaves left cs r)
    (hnext : ∀ x, Leaves left' (left x) (next x)) : Leaves left' cs (r >>= next) := by
  cases r with
  | none => exact .none
  | some x => exact (hnext x).of_suffix (h x rfl)

end Reads

/-! ## Texts and names -/

section Texts

variable {frames : Nat}

theorem skipSpace_suffix (cs : List Char) : skipSpace cs <:+ cs := List.dropWhile_suffix _

theorem skipLineFeed_suffix (cs : List Char) : skipLineFeed cs <:+ cs := by
  unfold skipLineFeed
  split
  · exact List.suffix_cons _ _
  · exact List.suffix_rfl

theorem reads_skipComment (cs : List Char) : Reads id frames cs (skipComment cs) := by
  unfold skipComment
  split
  · rw [List.span_eq_takeWhile_dropWhile]
    dsimp only
    split
    · trivial
    · exact (List.dropWhile_suffix _).trans (List.suffix_cons _ _)
  · exact List.suffix_rfl

theorem reads_literalText (cs : List Char) : Reads Prod.snd frames cs (literalText cs) := by
  unfold literalText
  rw [List.span_eq_takeWhile_dropWhile]
  dsimp only
  split
  · rename_i c rest heq
    split
    · trivial
    · exact (List.suffix_cons c rest).trans (heq ▸ List.dropWhile_suffix _)
  · trivial

theorem reads_untilTriple (q : Char) (done cs : List Char) :
    Reads Prod.snd frames cs (untilTriple q done cs) := by
  fun_induction untilTriple q done cs with
  | case1 => exact .invalid
  | case2 => exact Reads.here.behind.behind.behind
  | case3 done c d e rest _ ih => exact ih.behind
  | case4 => exact .invalid

/-- Each step is an error, or ends behind some characters, or goes on behind them. -/
theorem reads_basicText (lines : Bool) (trim : Trim) (done cs : List Char) :
    Reads Prod.snd frames cs (basicText lines trim done cs) := by
  fun_induction basicText lines trim done cs
  all_goals repeat' first | exact .invalid | exact .here | assumption | apply Reads.behind

theorem extraQuotes_suffix (q : Char) (done cs : List Char) : (extraQuotes q done cs).2 <:+ cs := by
  unfold extraQuotes
  split
  · split
    · exact List.suffix_rfl
    · split
      · split
        · exact (List.suffix_cons _ _).trans (List.suffix_cons _ _)
        · exact List.suffix_cons _ _
      · exact List.suffix_cons _ _
  · exact List.suffix_rfl

theorem reads_quotedText (cs : List Char) : Reads Prod.snd frames cs (quotedText cs) := by
  unfold quotedText
  split
  · rename_i rest
    have h : Reads Prod.snd frames rest (basicText true .nothing [] (skipLineFeed rest)) :=
      (reads_basicText ..).of_suffix (skipLineFeed_suffix rest)
    split
    · exact (h.of_error ‹_›).behind.behind.behind
    · exact (Reads.ok ((extraQuotes_suffix ..).trans (h.of_ok ‹_›))).behind.behind.behind
  · rename_i rest _
    have h : Reads Prod.snd frames rest (basicText false .nothing [] rest) := reads_basicText ..
    split
    · exact (h.of_error ‹_›).behind
    · exact .ok ((h.of_ok ‹_›).trans (List.suffix_cons _ _))
  · rename_i rest
    have h : Reads Prod.snd frames rest (untilTriple Text.apostrophe [] (skipLineFeed rest)) :=
      (reads_untilTriple ..).of_suffix (skipLineFeed_suffix rest)
    split
    · exact (h.of_error ‹_›).behind.behind.behind
    · split
      · exact .invalid
      · exact (Reads.ok ((extraQuotes_suffix ..).trans (h.of_ok ‹_›))).behind.behind.behind
  · exact (reads_literalText _).behind
  · exact .invalid

theorem reads_name (cs : List Char) : Reads Prod.snd frames cs (name cs) := by
  unfold name
  split
  · rename_i rest
    have h : Reads Prod.snd frames rest (basicText false .nothing [] rest) := reads_basicText ..
    split
    · exact (h.of_error ‹_›).behind
    · exact .ok ((h.of_ok ‹_›).trans (List.suffix_cons _ _))
  · exact (reads_literalText _).behind
  · rw [List.span_eq_takeWhile_dropWhile]
    dsimp only
    split
    · exact .invalid
    · exact .ok (List.dropWhile_suffix _)

theorem reads_morePath (done : List String) (fuel cs : List Char) :
    Reads Prod.snd frames cs (morePath done fuel cs) := by
  induction fuel generalizing done cs with
  | nil => exact .invalid
  | cons _ fuel ih =>
    rw [morePath]
    refine Reads.of_suffix ?_ (skipSpace_suffix cs)
    split
    · rename_i rest heq
      rw [heq]
      have h : Reads Prod.snd frames rest (name (skipSpace rest)) :=
        (reads_name _).of_suffix (skipSpace_suffix rest)
      split
      · exact (h.of_error ‹_›).behind
      · exact ((ih _ _).of_suffix (h.of_ok ‹_›)).behind
    · exact .here

theorem reads_path (cs : List Char) : Reads Prod.snd frames cs (path cs) := by
  have h : Reads Prod.snd frames cs (name cs) := reads_name cs
  unfold path
  split
  · exact h.of_error ‹_›
  · exact (reads_morePath ..).of_suffix (h.of_ok ‹_›)

end Texts

/-! ## Days, times and numbers -/

section Scalars

theorem leaves_twoDigits (low high : Nat) (cs : List Char) :
    Leaves Prod.snd cs (twoDigits? low high cs) := by
  unfold twoDigits?
  split
  · dsimp only
    split
    · exact .some ((List.suffix_cons _ _).trans (List.suffix_cons _ _))
    · exact .none
  · exact .none

theorem leaves_after (c : Char) (cs : List Char) : Leaves id cs (after? c cs) := by
  unfold after?
  split
  · split
    · exact .some (List.suffix_cons _ _)
    · exact .none
  · exact .none

theorem leaves_date (cs : List Char) : Leaves Prod.snd cs (date? cs) := by
  unfold date?
  split
  · rename_i a b c d rest
    split
    · refine Leaves.of_suffix ?_ (List.suffix_append [a, b, c, d] rest)
      refine (leaves_after '-' rest).bind fun rest => ?_
      refine (leaves_twoDigits 1 12 rest).bind fun month => ?_
      refine (leaves_after '-' month.2).bind fun rest => ?_
      refine (leaves_twoDigits 1 31 rest).bind fun day => ?_
      exact .some List.suffix_rfl
    · exact .none
  · exact .none

theorem micro_suffix (cs : List Char) : (micro cs).2 <:+ cs := by
  unfold micro
  split
  · rw [List.span_eq_takeWhile_dropWhile]
    dsimp only
    split
    · exact List.suffix_rfl
    · exact (List.dropWhile_suffix _).trans (List.suffix_cons _ _)
  · exact List.suffix_rfl

theorem leaves_time (cs : List Char) : Leaves Prod.snd cs (time? cs) := by
  unfold time?
  refine (leaves_twoDigits 0 23 cs).bind fun hour => ?_
  refine (leaves_after ':' hour.2).bind fun rest => ?_
  refine (leaves_twoDigits 0 59 rest).bind fun minute => ?_
  refine (leaves_after ':' minute.2).bind fun rest => ?_
  refine (leaves_twoDigits 0 59 rest).bind fun second => ?_
  exact .some (micro_suffix second.2)

theorem leaves_offset (cs : List Char) : Leaves Prod.snd cs (offset? cs) := by
  unfold offset?
  split
  · exact .some (List.suffix_cons _ _)
  · exact .some (List.suffix_cons _ _)
  · rename_i c rest _ _
    split
    · refine Leaves.of_suffix ?_ (List.suffix_cons c rest)
      refine (leaves_twoDigits 0 23 rest).bind fun hours => ?_
      refine (leaves_after ':' hours.2).bind fun rest => ?_
      refine (leaves_twoDigits 0 59 rest).bind fun minutes => ?_
      exact .some List.suffix_rfl
    · exact .none
  · exact .none

theorem leaves_timeBehindDate (cs : List Char) : Leaves Prod.snd cs (timeBehindDate? cs) := by
  unfold timeBehindDate?
  split
  · rename_i c rest
    split
    · refine Leaves.of_suffix ?_ (List.suffix_cons c rest)
      split
      · exact .none
      · rename_i t rest' heq
        have htime := leaves_time rest _ heq
        split
        · exact .some ((leaves_offset _ _ ‹_›).trans htime)
        · exact .some htime
    · exact .none
  · exact .none

theorem leaves_dateOrMoment {frames : Nat} {cs : List Char} {r : Except Error (Value × List Char)}
    (h : dateOrMoment? cs = some r) : Reads Prod.snd frames cs r := by
  unfold dateOrMoment? at h
  cases hdate : date? cs with
  | none =>
    rw [hdate] at h
    cases h
  | some day =>
    obtain ⟨d, rest⟩ := day
    have hrest : rest <:+ cs := leaves_date cs _ hdate
    rw [hdate] at h
    cases hmoment : timeBehindDate? rest with
    | none =>
      simp only [hmoment] at h
      cases h
      split
      · exact .ok hrest
      · exact .invalid
    | some moment =>
      obtain ⟨⟨t, offset⟩, rest'⟩ := moment
      have hrest' : rest' <:+ rest := leaves_timeBehindDate rest _ hmoment
      simp only [hmoment] at h
      cases h
      split
      · exact .ok (hrest'.trans hrest)
      · exact .invalid

/-! ### Digits -/

/-- Digits are read with the underscores between them. -/
theorem digitsOnto_spec {p : Char → Bool} (hp : p '_' = false) (done cs : List Char) :
    ∃ run, cs = run ++ (digitsOnto p done cs).2 ∧
      (digitsOnto p done cs).1 = (run.filter p).reverse ++ done ∧
      ∀ c ∈ run, p c = true ∨ c = '_' := by
  fun_induction digitsOnto p done cs with
  | case1 done c cs hc ih =>
    obtain ⟨run, hcs, hdone, hrun⟩ := ih
    refine ⟨'_' :: c :: run, by simp [← hcs], by simp [hdone, hp, hc], ?_⟩
    exact List.forall_mem_cons.mpr ⟨.inr rfl, List.forall_mem_cons.mpr ⟨.inl hc, hrun⟩⟩
  | case3 done c cs _ hc ih =>
    obtain ⟨run, hcs, hdone, hrun⟩ := ih
    refine ⟨c :: run, by simp [← hcs], by simp [hdone, hc], ?_⟩
    exact List.forall_mem_cons.mpr ⟨.inl hc, hrun⟩
  | _ => exact ⟨[], rfl, rfl, nofun⟩

theorem digits_spec {p : Char → Bool} (hp : p '_' = false) {cs ds rest : List Char}
    (h : digits? p cs = some (ds, rest)) :
    ∃ run, cs = run ++ rest ∧ ds = run.filter p ∧ ∀ c ∈ run, p c = true ∨ c = '_' := by
  cases cs with
  | nil => cases h
  | cons c cs =>
    rw [digits?] at h
    split at h
    · rename_i hc
      obtain ⟨run, hcs, hdone, hrun⟩ := digitsOnto_spec hp [c] cs
      cases h
      refine ⟨c :: run, congrArg (c :: ·) hcs, by simp [hdone, hc], ?_⟩
      exact List.forall_mem_cons.mpr ⟨.inl hc, hrun⟩
    · cases h

theorem leaves_digits {p : Char → Bool} (hp : p '_' = false) (cs : List Char) :
    Leaves Prod.snd cs (digits? p cs) := by
  rintro ⟨ds, rest⟩ h
  obtain ⟨run, rfl, -⟩ := digits_spec hp h
  exact List.suffix_append run rest

theorem leaves_basedInteger (cs : List Char) : Leaves Prod.snd cs (basedInteger? cs) := by
  unfold basedInteger?
  split
  · rename_i mark rest
    dsimp only
    split
    · exact .none
    · rename_i ds rest' heq
      have hmark : Text.hexValue? '_' = none := by decide
      have hdigits : rest' <:+ rest := leaves_digits (by rw [hmark]; rfl) rest _ heq
      exact .some (hdigits.trans (List.suffix_append ['0', mark] rest))
  · exact .none

theorem wholePart_spec {cs ds rest : List Char} (h : wholePart? cs = some (ds, rest)) :
    rest <:+ cs ∧ HoldsDigits cs ds.length := by
  unfold wholePart? at h
  split at h
  · cases h
    exact ⟨List.suffix_cons _ _, ['0'], ⟨[], rest, rfl⟩, by simp, rfl⟩
  · obtain ⟨run, rfl, rfl, hrun⟩ := digits_spec (by decide) h
    refine ⟨List.suffix_append run rest, run, (List.prefix_append run rest).isInfix, hrun, ?_⟩
    exact List.countP_eq_length_filter

theorem places_suffix (cs : List Char) : (places cs).2 <:+ cs := by
  unfold places
  split
  · split
    · rename_i ds rest heq
      have hdigits : rest <:+ _ := leaves_digits (p := Char.isDigit) rfl _ _ heq
      exact hdigits.trans (List.suffix_cons _ _)
    · exact List.suffix_rfl
  · exact List.suffix_rfl

theorem powerOfTen_suffix (cs : List Char) : (powerOfTen cs).2 <:+ cs := by
  unfold powerOfTen
  split
  · rename_i c more
    split
    · dsimp only
      split
      · rename_i ds rest heq
        have hdigits : rest <:+ _ := leaves_digits (p := Char.isDigit) rfl _ _ heq
        refine (hdigits.trans ?_).trans (List.suffix_cons c more)
        split
        · exact List.suffix_cons _ _
        · exact List.suffix_cons _ _
        · exact List.suffix_rfl
      · exact List.suffix_rfl
    · exact List.suffix_rfl
  · exact List.suffix_rfl

theorem signOf_suffix (cs : List Char) : (signOf cs).2 <:+ cs := by
  unfold signOf
  split
  · exact List.suffix_cons _ _
  · exact List.suffix_cons _ _
  · exact List.suffix_rfl

/-- A whole number that is too long is one of the digits that were read. -/
theorem reads_decimalNumber {frames : Nat} {cs : List Char} {r : Except Error (Value × List Char)}
    (h : decimalNumber? cs = some r) : Reads Prod.snd frames cs r := by
  unfold decimalNumber? at h
  have hsign := signOf_suffix cs
  generalize signOf cs = signed at h hsign
  obtain ⟨negative, more⟩ := signed
  cases hwhole : wholePart? more with
  | none =>
    simp only [hwhole] at h
    cases h
  | some part =>
    obtain ⟨whole, rest⟩ := part
    obtain ⟨hrest, hdigits⟩ := wholePart_spec hwhole
    have hplaces := places_suffix rest
    have hpower := powerOfTen_suffix (places rest).2
    have hleft : (powerOfTen (places rest).2).2 <:+ cs :=
      ((hpower.trans hplaces).trans hrest).trans hsign
    simp only [hwhole] at h
    split at h
    · cases h
      split
      · rename_i hlong
        have haccounts : Accounts frames more (.integerTooLong whole.length) := ⟨hlong, hdigits⟩
        exact haccounts.of_suffix hsign
      · exact .ok hleft
    · split at h
      · cases h
      · cases h
        exact .ok hleft

theorem leaves_namedNumber (cs : List Char) : Leaves Prod.snd cs (namedNumber? cs) := by
  unfold namedNumber?
  refine Leaves.of_suffix ?_ (signOf_suffix cs)
  dsimp only
  split
  · rename_i rest heq
    rw [heq]
    exact .some (List.suffix_append ['i', 'n', 'f'] rest)
  · rename_i rest heq
    rw [heq]
    exact .some (List.suffix_append ['n', 'a', 'n'] rest)
  · exact .none

theorem leaves_boolean (cs : List Char) : Leaves Prod.snd cs (boolean? cs) := by
  unfold boolean?
  split
  · rename_i rest
    exact .some (List.suffix_append ['t', 'r', 'u', 'e'] rest)
  · rename_i rest
    exact .some (List.suffix_append ['f', 'a', 'l', 's', 'e'] rest)
  · exact .none

theorem reads_plainValue {frames : Nat} (cs : List Char) :
    Reads Prod.snd frames cs (plainValue cs) := by
  unfold plainValue
  split
  · exact .ok (leaves_boolean cs _ ‹_›)
  split
  · exact leaves_dateOrMoment ‹_›
  split
  · exact .ok (leaves_time cs _ ‹_›)
  split
  · exact .ok (leaves_basedInteger cs _ ‹_›)
  split
  · exact reads_decimalNumber ‹_›
  split
  · exact .ok (leaves_namedNumber cs _ ‹_›)
  · exact .invalid

end Scalars

/-! ## Values -/

section Values

variable {frames : Nat} {value : List Char → Except Error (Value × List Char)}

theorem reads_skipToItem (inComment : Bool) (cs : List Char) :
    Reads id frames cs (skipToItem inComment cs) := by
  fun_induction skipToItem inComment cs
  all_goals first | exact .invalid | exact .here | exact Reads.behind ‹_›

/-- Reading the items of a list fails as reading one of them does. -/
theorem reads_listItems (hvalue : ∀ cs, Reads Prod.snd frames cs (value cs)) (done : List Value)
    (fuel cs : List Char) : Reads Prod.snd frames cs (listItems value done fuel cs) := by
  induction fuel generalizing done cs with
  | nil => exact .invalid
  | cons _ fuel ih =>
    rw [listItems]
    refine (reads_skipToItem false cs).bind fun cs => ?_
    split
    · exact .ok (List.suffix_cons _ _)
    · refine (hvalue cs).bind fun item => ?_
      refine (reads_skipToItem false item.2).bind fun cs => ?_
      split
      · exact .ok (List.suffix_cons _ _)
      · exact (ih _ _).behind
      · exact .invalid

theorem reads_pathWithValue (hvalue : ∀ cs, Reads Prod.snd frames cs (value cs)) (cs : List Char) :
    Reads Prod.snd frames cs (pathWithValue value cs) := by
  unfold pathWithValue
  refine (reads_path cs).bind fun p => ?_
  dsimp only
  split
  · rename_i rest heq
    rw [heq]
    refine Reads.behind (Reads.of_suffix ?_ (skipSpace_suffix rest))
    exact (hvalue _).bind fun v => .here
  · exact .invalid

/-! ### Tables -/

/-- A change of a table in tables reads nothing. -/
theorem reads_changeAt {cs : List Char} {lists : Bool} {change : Table → Except Error Table}
    (hchange : ∀ t, Reads (fun _ => cs) frames cs (change t)) (p : List String) (t : Table) :
    Reads (fun _ => cs) frames cs (changeAt lists change p t) := by
  induction p generalizing t with
  | nil => exact hchange t
  | cons n p ih =>
    rw [changeAt]
    split
    · exact (ih []).bind fun inner => .ok List.suffix_rfl
    · exact (ih _).bind fun inner => .ok List.suffix_rfl
    · split
      · exact (ih _).bind fun inner => .ok List.suffix_rfl
      · exact .invalid
    · exact .invalid

theorem reads_define {cs : List Char} (n : String) (v : Value) (t : Table) :
    Reads (fun _ => cs) frames cs (define n v t) := by
  unfold define
  split
  · exact .invalid
  · exact .ok List.suffix_rfl

theorem reads_addToList {cs : List Char} (n : String) (t : Table) :
    Reads (fun _ => cs) frames cs (addToList n t) := by
  unfold addToList
  split
  · exact .ok List.suffix_rfl
  · exact .ok List.suffix_rfl
  · exact .invalid

theorem reads_tableEntries (hvalue : ∀ cs, Reads Prod.snd frames cs (value cs)) (t : Table)
    (rules : List Rule) (fuel cs : List Char) :
    Reads Prod.snd frames cs (tableEntries value t rules fuel cs) := by
  induction fuel generalizing t rules cs with
  | nil => exact .invalid
  | cons _ fuel ih =>
    rw [tableEntries]
    refine Reads.of_suffix ?_ (skipSpace_suffix cs)
    refine (reads_pathWithValue hvalue (skipSpace cs)).bind fun entry => ?_
    dsimp only
    split
    · exact .invalid
    · refine (reads_changeAt (reads_define _ _) _ t).bind fun t => ?_
      refine Reads.of_suffix ?_ (skipSpace_suffix entry.2)
      split
      · rename_i rest heq
        rw [heq]
        exact .ok (List.suffix_cons _ _)
      · rename_i rest heq
        rw [heq]
        exact (ih _ _ _).behind
      · exact .invalid

/-- A value that is nested too deeply has openings that account for it. -/
theorem reads_value (frames : Nat) (cs : List Char) :
    Reads Prod.snd frames cs (Toml.value frames cs) := by
  induction frames using Nat.strongRecOn generalizing cs with
  | ind frames ih =>
    unfold Toml.value
    split
    · rename_i frames rest
      exact .opened (c := '[')
        ((reads_listItems (ih frames (by omega)) [] _ _).map fun _ => rfl)
    · rename_i hfew
      exact .tooDeep (c := '[') hfew
    · rename_i frames rest
      refine .opened (c := '\x7b') (Reads.of_suffix ?_ (skipSpace_suffix rest))
      split
      · rename_i rest heq
        rw [heq]
        exact .ok (List.suffix_cons _ _)
      · exact (reads_tableEntries (ih frames (by omega)) [] [] _ _).map fun _ => rfl
    · rename_i hfew
      exact .tooDeep (c := '\x7b') hfew
    · exact (reads_quotedText _).map fun _ => rfl
    · exact (reads_quotedText _).map fun _ => rfl
    · exact reads_plainValue _

end Values

/-! ## Statements -/

section Statements

variable (frames : Nat) (d : Document) (cs : List Char)

theorem reads_tableHeader : Reads Prod.snd frames cs (tableHeader d cs) := by
  unfold tableHeader
  refine Reads.of_suffix ?_ (skipSpace_suffix cs)
  refine (reads_path (skipSpace cs)).bind fun p => ?_
  dsimp only
  split
  · exact .invalid
  · refine (reads_changeAt (fun t => .ok List.suffix_rfl) _ d.data).bind fun data => ?_
    split
    · rename_i rest heq
      rw [heq]
      exact .ok (List.suffix_cons _ _)
    · exact .invalid

theorem reads_listHeader : Reads Prod.snd frames cs (listHeader d cs) := by
  unfold listHeader
  refine Reads.of_suffix ?_ (skipSpace_suffix cs)
  refine (reads_path (skipSpace cs)).bind fun p => ?_
  dsimp only
  split
  · exact .invalid
  · refine (reads_changeAt (reads_addToList _) _ d.data).bind fun data => ?_
    split
    · rename_i rest heq
      rw [heq]
      exact .ok ((List.suffix_cons _ _).trans (List.suffix_cons _ _))
    · exact .invalid

theorem reads_assignment : Reads Prod.snd frames cs (assignment frames d cs) := by
  unfold assignment
  refine (reads_pathWithValue (reads_value frames) cs).bind fun entry => ?_
  dsimp only
  split
  · exact .invalid
  split
  · exact .invalid
  · refine (reads_changeAt (reads_define _ _) _ d.data).bind fun data => ?_
    exact .here

theorem reads_statement : Reads Prod.snd frames cs (statement frames d cs) := by
  unfold statement
  split
  · exact (reads_listHeader _ _ _).behind.behind
  · exact (reads_tableHeader _ _ _).behind
  · exact reads_assignment frames d cs

/-- A document is read to its end. -/
theorem reads_statements (fuel : List Char) :
    Reads (fun _ => []) frames cs (statements frames d fuel cs) := by
  induction fuel generalizing d cs with
  | nil => exact .ok (List.nil_suffix)
  | cons _ fuel ih =>
    rw [statements]
    refine Reads.of_suffix ?_ (skipSpace_suffix cs)
    split
    · exact .ok List.nil_suffix
    · rename_i rest heq
      rw [heq]
      exact (ih d rest).behind
    · rename_i c rest _ heq
      -- what stands behind a statement or a comment, up to the end of the line
      extract_lets line
      have hline : ∀ step, Reads (fun _ => []) frames step.2 (line step) := by
        rintro ⟨d, cs⟩
        refine Reads.of_suffix ?_ (skipSpace_suffix cs)
        refine (reads_skipComment (skipSpace cs)).bind fun cs => ?_
        split
        · exact .ok List.nil_suffix
        · exact (ih _ _).behind
        · exact .invalid
      split
      · exact hline (d, skipSpace cs)
      · exact (reads_statement frames d (skipSpace cs)).bind hline

end Statements

/-- The text of a document accounts for every error of reading it. -/
theorem accounts_of_read {frames : Nat} {cs : List Char} {e : Error}
    (h : read frames cs = .error e) : Accounts frames cs e := by
  have hread : Reads (fun _ => []) frames cs (read frames cs) :=
    (reads_statements frames {} cs _).map fun _ => rfl
  rw [h] at hread
  exact hread

end Calculator.Toml
