import Calculator.Proofs.Reader
import Calculator.Token.Lexer

/-!
# Lexemes

The lexer reads from a reader, which may turn to another piece at every character. What it reads is
a function of the characters alone: `Lexer.lexeme` gives the kind and the text of the token that a
text begins with, by recursion on nothing but the text. `Lexer.token_spec` says that the lexer
skips blanks, takes that lexeme, and stands behind it.
-/

namespace Calculator.Lexer

open Reader (firstIf)

/-! ## The token that a text begins with -/

/-- The exponent that a text begins with, if it begins with one. -/
def exponentOf (cs : List Char) : List Char :=
  let mark := firstIf (fun c => c = 'e' || c = 'E') cs
  if mark.isEmpty then []
  else
    let rest := cs.drop mark.length
    let sign := firstIf (fun c => c = '+' || c = '-') rest
    mark ++ sign ++ (rest.drop sign.length).takeWhile Char.isDigit

/-- The point that a text begins with and the digits after it, if it begins with a point. -/
def fractionOf (cs : List Char) : List Char :=
  let point := firstIf (fun c => c = '.') cs
  if point.isEmpty then []
  else point ++ (cs.drop point.length).takeWhile Char.isDigit

/-- The number that a text begins with, when it begins with a digit. -/
def numberOf (cs : List Char) : TokenKind × List Char :=
  let digits := cs.takeWhile Char.isDigit
  let rest := cs.drop digits.length
  let fraction := fractionOf rest
  let exponent := exponentOf (rest.drop fraction.length)
  (if fraction.isEmpty && exponent.isEmpty then .whole else .decimal,
    digits ++ fraction ++ exponent)

/-- The number whose point stands before a text that begins with a digit. -/
def pointNumberOf (cs : List Char) : List Char :=
  let digits := cs.takeWhile Char.isDigit
  '.' :: digits ++ exponentOf (cs.drop digits.length)

/-- The kind and the text of the token that a text without leading blanks begins with. -/
def lexeme : List Char → TokenKind × List Char
  | [] => (.eof, [])
  | c :: cs =>
    if c.isDigit then numberOf (c :: cs)
    else if c = '.' then
      if cs.head?.any Char.isDigit then (.decimal, pointNumberOf cs) else (.symbol, ['.'])
    else if startsName c then (.name, (c :: cs).takeWhile continuesName)
    else (.symbol, [c])

/-! ## The lexer takes lexemes -/

variable (r : Reader)

theorem exponent_spec :
    (exponent r).1 = exponentOf r.toList ∧ r.Passes (exponent r).1 (exponent r).2 := by
  obtain ⟨hm, hmp⟩ := r.takeIf_spec fun c => c = 'e' || c = 'E'
  simp only [exponent, exponentOf, ← hm]
  generalize r.takeIf _ = mark at hmp ⊢
  cases he : mark.1.isEmpty with
  | true =>
    rw [List.isEmpty_iff] at he
    rw [he] at hmp
    exact ⟨rfl, hmp⟩
  | false =>
    obtain ⟨hs, hsp⟩ := mark.2.takeIf_spec fun c => c = '+' || c = '-'
    obtain ⟨hd, hdp⟩ := (mark.2.takeIf fun c => c = '+' || c = '-').2.takeWhile_spec Char.isDigit
    simp only [Bool.false_eq_true, if_false]
    rw [← hmp.toList_eq, ← hs, ← hsp.toList_eq, ← hd]
    exact ⟨rfl, (hmp.trans hsp).trans hdp⟩

theorem fraction_spec :
    (fraction r).1 = fractionOf r.toList ∧ r.Passes (fraction r).1 (fraction r).2 := by
  obtain ⟨hp, hpp⟩ := r.takeIf_spec fun c => c = '.'
  simp only [fraction, fractionOf, ← hp]
  generalize r.takeIf _ = point at hpp ⊢
  cases he : point.1.isEmpty with
  | true =>
    rw [List.isEmpty_iff] at he
    rw [he] at hpp
    exact ⟨rfl, hpp⟩
  | false =>
    obtain ⟨hd, hdp⟩ := point.2.takeWhile_spec Char.isDigit
    simp only [Bool.false_eq_true, if_false]
    rw [← hpp.toList_eq, ← hd]
    exact ⟨rfl, hpp.trans hdp⟩

theorem number_spec :
    ((number r).1, (number r).2.1) = numberOf r.toList ∧
      r.Passes (number r).2.1 (number r).2.2 := by
  obtain ⟨hd, hdp⟩ := r.takeWhile_spec Char.isDigit
  obtain ⟨hf, hfp⟩ := fraction_spec (r.takeWhile Char.isDigit).2
  obtain ⟨he, hep⟩ := exponent_spec (fraction (r.takeWhile Char.isDigit).2).2
  simp only [number, numberOf]
  rw [← hd, ← hdp.toList_eq, ← hf, ← hfp.toList_eq, ← he]
  exact ⟨rfl, (hdp.trans hfp).trans hep⟩

theorem pointNumber_spec {r₀ : Reader} (h : r₀.Passes ['.'] r) :
    (pointNumber r).1 = pointNumberOf r.toList ∧
      r₀.Passes (pointNumber r).1 (pointNumber r).2 := by
  obtain ⟨hd, hdp⟩ := r.takeWhile_spec Char.isDigit
  obtain ⟨he, hep⟩ := exponent_spec (r.takeWhile Char.isDigit).2
  simp only [pointNumber, pointNumberOf]
  rw [← hd, ← hdp.toList_eq, ← he]
  exact ⟨rfl, (h.trans hdp).trans hep⟩

theorem take_passes {r : Reader} {c : Char} {cs : List Char} (hl : r.toList = c :: cs) :
    r.Passes [c] (r.takeIf fun _ => true).2 := by
  obtain ⟨ht, hp⟩ := r.takeIf_spec fun _ => true
  rw [hl] at ht
  rwa [ht] at hp

/-- The lexer takes the lexeme at its reader, from a text without leading blanks. -/
theorem tokenHere_spec :
    (tokenHere r).1 =
        ⟨(lexeme r.toList).1, String.ofList (lexeme r.toList).2, r.position⟩ ∧
      r.Passes (lexeme r.toList).2 (tokenHere r).2 := by
  simp only [tokenHere]
  rw [Reader.peek_eq]
  cases hl : r.toList with
  | nil => exact ⟨rfl, .of_eq (by simp) (by simp)⟩
  | cons c cs =>
    have htake := take_passes hl
    simp only [List.head?_cons, lexeme]
    by_cases hd : c.isDigit = true
    · obtain ⟨hn, hnp⟩ := number_spec r
      simp only [hd, if_true, ← hl, ← hn]
      exact ⟨trivial, hnp⟩
    · by_cases hdot : c = '.'
      · subst hdot
        have hcs : (r.takeIf fun _ => true).2.toList = cs := by rw [htake.toList_eq, hl]; rfl
        simp only [hd, Bool.false_eq_true, if_false, if_true]
        rw [Reader.peek_eq, hcs]
        by_cases hnext : cs.head?.any Char.isDigit = true
        · obtain ⟨hn, hnp⟩ := pointNumber_spec _ htake
          rw [hcs] at hn
          simp only [hnext, if_true, ← hn]
          exact ⟨trivial, hnp⟩
        · simp only [hnext, Bool.false_eq_true, if_false]
          exact ⟨trivial, htake⟩
      · by_cases hs : startsName c = true
        · obtain ⟨ht, htp⟩ := r.takeWhile_spec continuesName
          rw [hl] at ht
          simp only [hd, hdot, hs, Bool.false_eq_true, if_false, if_true, ← ht]
          exact ⟨trivial, htp⟩
        · simp only [hd, hdot, hs, Bool.false_eq_true, if_false]
          exact ⟨rfl, htake⟩

/-- **What one step of the lexer does**: it passes the blanks, takes the lexeme behind them, and
stands behind the lexeme. -/
theorem token_spec :
    (token r).1 =
        ⟨(lexeme (r.toList.dropWhile Text.isBlank)).1,
          String.ofList (lexeme (r.toList.dropWhile Text.isBlank)).2,
          r.position + (r.toList.takeWhile Text.isBlank).length⟩ ∧
      r.Passes (r.toList.takeWhile Text.isBlank ++
        (lexeme (r.toList.dropWhile Text.isBlank)).2) (token r).2 := by
  obtain ⟨hb, hbp⟩ := r.takeWhile_spec Text.isBlank
  obtain ⟨ht, htp⟩ := tokenHere_spec (r.takeWhile Text.isBlank).2
  rw [r.toList_takeWhile] at ht htp
  rw [hbp.2, hb] at ht
  rw [hb] at hbp
  exact ⟨ht, hbp.trans htp⟩

theorem kind_token : (token r).1.kind = (lexeme (r.toList.dropWhile Text.isBlank)).1 := by
  rw [(token_spec r).1]

/-! ## Only the end is empty

That is why reading token after token comes to an end. -/

theorem numberOf_kind (cs : List Char) : (numberOf cs).1 ≠ .eof := by
  simp only [numberOf]
  split <;> simp

theorem lexeme_kind_eq_eof {cs : List Char} : (lexeme cs).1 = .eof ↔ cs = [] := by
  cases cs with
  | nil => simp [lexeme]
  | cons c cs =>
    simp only [lexeme, reduceCtorEq, iff_false]
    split
    · exact numberOf_kind _
    · split
      · split <;> simp
      · split <;> simp

theorem continuesName_of_startsName {c : Char} (h : startsName c = true) :
    continuesName c = true := by
  simp only [startsName, continuesName, Text.isAlphanumeric, Bool.or_eq_true] at h ⊢
  rcases h with h | h
  · exact .inl (.inl h)
  · exact .inr h

theorem lexeme_ne_nil {cs : List Char} (h : cs ≠ []) : (lexeme cs).2 ≠ [] := by
  cases cs with
  | nil => exact absurd rfl h
  | cons c cs =>
    simp only [lexeme]
    split
    · rename_i hd
      simp [numberOf, hd]
    · split
      · split <;> simp [pointNumberOf]
      · split
        · rename_i hs
          simp [continuesName_of_startsName hs]
        · simp

end Calculator.Lexer
