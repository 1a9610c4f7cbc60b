import Calculator.Token.Reader
import Mathlib.Data.List.TakeDrop
import Mathlib.Data.List.TakeWhile

/-!
# What a reader gives

A reader is known by two things: the characters that it has yet to give, `Reader.toList`, and the
offset of the next one. How the characters are cut into pieces shows in no answer. Each operation
gets one lemma that says what it takes from the view, and one relation, `Reader.Passes`, says that
a reader moved on over the characters that were taken.
-/

namespace Calculator.Reader

/-- `r'` is the reader `r` behind the characters `taken`. -/
def Passes (r : Reader) (taken : List Char) (r' : Reader) : Prop :=
  r.toList = taken ++ r'.toList ∧ r'.position = r.position + taken.length

/-- The first character of a text if it has the given property. -/
def firstIf (p : Char → Bool) : List Char → List Char
  | [] => []
  | c :: _ => if p c then [c] else []

section Passes

variable {r r' r'' : Reader} {a b : List Char}

theorem Passes.toList_eq (h : r.Passes a r') : r'.toList = r.toList.drop a.length := by
  rw [h.1, List.drop_left]

theorem Passes.trans (h : r.Passes a r') (h' : r'.Passes b r'') : r.Passes (a ++ b) r'' := by
  refine ⟨?_, ?_⟩
  · rw [h.1, h'.1, List.append_assoc]
  · rw [h'.2, h.2, List.length_append, Nat.add_assoc]

/-- A reader that took nothing may still have turned to another piece. -/
theorem Passes.of_eq (hl : r'.toList = r.toList) (hp : r'.position = r.position) :
    r.Passes [] r' := by
  refine ⟨?_, ?_⟩
  · rw [hl, List.nil_append]
  · rw [hp, List.length_nil, Nat.add_zero]

end Passes

@[simp] theorem toList_ofSource (s : Source) : (ofSource s).toList = s.pieces.flatten := rfl

/-- A text in memory is one piece. -/
@[simp] theorem flatten_text (cs : List Char) : (Source.text cs).pieces.flatten = cs :=
  List.append_nil cs

@[simp] theorem position_ofSource (s : Source) : (ofSource s).position = 0 := rfl

/-! ## Turning to the next piece -/

/-- Skipping empty pieces loses no character. -/
theorem refill_flatten (pieces : List (List Char)) :
    (refill pieces).1 ++ (refill pieces).2.flatten = pieces.flatten := by
  induction pieces with
  | nil => rfl
  | cons piece pieces ih =>
    cases piece with
    | nil => simpa [refill] using ih
    | cons c cs => rfl

/-- What the next piece begins with is what all pieces together begin with. -/
theorem refill_eq_nil {pieces : List (List Char)} (h : (refill pieces).1 = []) :
    pieces.flatten = [] := by
  induction pieces with
  | nil => rfl
  | cons piece pieces ih =>
    cases piece with
    | nil => simpa using ih h
    | cons c cs => cases h

@[simp] theorem toList_ready (r : Reader) : r.ready.toList = r.toList := by
  obtain ⟨buffer, position, pieces⟩ := r
  cases buffer with
  | nil => exact refill_flatten pieces
  | cons c cs => rfl

@[simp] theorem position_ready (r : Reader) : r.ready.position = r.position := by
  obtain ⟨buffer, position, pieces⟩ := r
  cases buffer <;> rfl

/-- A reader that is ready and has no character at hand has none to come. -/
theorem toList_eq_nil_of_ready {r : Reader} (h : r.ready.buffer = []) : r.toList = [] := by
  obtain ⟨buffer, position, pieces⟩ := r
  cases buffer with
  | nil => exact refill_eq_nil h
  | cons c cs => cases h

/-! ## Looking and taking -/

theorem peek_eq (r : Reader) : r.peek = r.toList.head? := by
  rw [peek, ← toList_ready]
  cases hb : r.ready.buffer with
  | nil => rw [toList_ready, toList_eq_nil_of_ready hb, List.head?_nil]
  | cons c cs => simp [toList, hb]

theorem takeIf_spec (p : Char → Bool) (r : Reader) :
    (r.takeIf p).1 = firstIf p r.toList ∧ r.Passes (r.takeIf p).1 (r.takeIf p).2 := by
  simp only [takeIf]
  rw [← toList_ready]
  cases hb : r.ready.buffer with
  | nil =>
    refine ⟨?_, .of_eq (by simp) (by simp)⟩
    rw [toList_ready, toList_eq_nil_of_ready hb]
    rfl
  | cons c cs =>
    have hl : r.ready.toList = c :: (cs ++ r.ready.pieces.flatten) := by simp [toList, hb]
    by_cases hc : p c = true
    · simp only [hc, if_true, hl, firstIf, true_and]
      refine ⟨?_, by simp⟩
      rw [← toList_ready, hl]
      rfl
    · simp only [hc, hl, firstIf]
      exact ⟨rfl, .of_eq (by simp) (by simp)⟩

/-- The loop over the pieces: a piece that is used up leads to the next one, and the first character
without the property ends it wherever it stands. -/
theorem takeWhileOnto_spec (p : Char → Bool) (pieces : List (List Char)) (taken : List Char)
    (position : Nat) (buffer : List Char) :
    ∃ r', takeWhileOnto p taken position buffer pieces =
        (((buffer ++ pieces.flatten).takeWhile p).reverse ++ taken, r') ∧
      r'.toList = (buffer ++ pieces.flatten).dropWhile p ∧
      r'.position = position + ((buffer ++ pieces.flatten).takeWhile p).length := by
  induction pieces generalizing taken position buffer with
  | nil =>
    refine ⟨⟨buffer.dropWhile p, position + (buffer.takeWhile p).length, []⟩, ?_, ?_, ?_⟩
    · simp [takeWhileOnto, List.span_eq_takeWhile_dropWhile]
    · simp [toList]
    · simp
  | cons piece pieces ih =>
    simp only [takeWhileOnto, List.span_eq_takeWhile_dropWhile, List.flatten_cons]
    cases hd : buffer.dropWhile p with
    | nil =>
      -- the whole buffer was taken
      have hall : ∀ c ∈ buffer, p c = true := List.dropWhile_eq_nil_iff.mp hd
      have hb : buffer.takeWhile p = buffer := List.takeWhile_eq_self_iff.mpr hall
      obtain ⟨r', h, hl, hp⟩ := ih (buffer.reverse ++ taken) (position + buffer.length) piece
      refine ⟨r', ?_, ?_, ?_⟩
      · rw [hb, h, List.takeWhile_append_of_pos hall, List.reverse_append, List.append_assoc]
      · rw [hl, List.dropWhile_append_of_pos hall]
      · rw [hp, List.takeWhile_append_of_pos hall, List.length_append, Nat.add_assoc]
    | cons c cs =>
      -- the buffer holds the character that ends the loop
      have hne : (buffer.takeWhile p).length ≠ buffer.length := by
        have := congrArg List.length (List.takeWhile_append_dropWhile (p := p) (l := buffer))
        rw [hd, List.length_append, List.length_cons] at this
        omega
      refine ⟨⟨c :: cs, position + (buffer.takeWhile p).length, piece :: pieces⟩, ?_, ?_, ?_⟩
      · rw [List.takeWhile_append, if_neg hne]
      · simp [toList, List.dropWhile_append, hd]
      · rw [List.takeWhile_append, if_neg hne]

theorem takeWhile_spec (p : Char → Bool) (r : Reader) :
    (r.takeWhile p).1 = r.toList.takeWhile p ∧ r.Passes (r.takeWhile p).1 (r.takeWhile p).2 := by
  obtain ⟨r', h, hl, hp⟩ := takeWhileOnto_spec p r.pieces [] r.position r.buffer
  simp only [takeWhile, h, List.append_nil, List.reverse_reverse]
  refine ⟨rfl, ?_, hp⟩
  rw [hl]
  exact List.takeWhile_append_dropWhile.symm

theorem toList_takeWhile (p : Char → Bool) (r : Reader) :
    (r.takeWhile p).2.toList = r.toList.dropWhile p := by
  obtain ⟨ht, hp⟩ := r.takeWhile_spec p
  rw [ht] at hp
  exact List.append_cancel_left (hp.1.symm.trans List.takeWhile_append_dropWhile.symm)

end Calculator.Reader
