import Calculator.Proofs.Tokens
import Calculator.Proofs.Utf8

/-!
# Cutting shows in no token

A text may come whole, as pieces of characters, or as pieces of bytes that are cut anywhere, also in
the middle of a character. The tokens are those of the whole text in every case, step for step and
beyond the end: a step depends on the reader's view alone, and the view of a source is its text.
-/

namespace Calculator

open Text.Utf8

/-! ## The text of a source -/

namespace Source

/-- Decoding piece by piece, the state carried along, is decoding in one go. -/
theorem flatten_decodePieces (s : State) (pieces : List (List UInt8)) :
    (decodePieces s pieces).flatten = repair (itemsFrom s pieces.flatten) := by
  induction pieces generalizing s with
  | nil => simp [decodePieces, itemsFrom_nil]
  | cons piece pieces ih =>
    simp only [decodePieces, List.flatten_cons, ih]
    simp [itemsFrom, run_append, repair]

section Empty

variable {α : Type}

theorem beforeEmpty_of_ne_nil {pieces : List (List α)} (h : ∀ p ∈ pieces, p ≠ []) :
    beforeEmpty pieces = pieces := by
  refine List.takeWhile_eq_self_iff.mpr fun p hp => ?_
  simpa using h p hp

/-- An empty piece hides what comes after it. -/
theorem beforeEmpty_append (before after : List (List α)) :
    beforeEmpty (before ++ [] :: after) = beforeEmpty before := by
  induction before with
  | nil => rfl
  | cons piece before ih =>
    simp only [beforeEmpty, List.cons_append, List.takeWhile_cons] at ih ⊢
    rw [ih]

end Empty

theorem flatten_textPieces {pieces : List (List Char)} (h : ∀ p ∈ pieces, p ≠ []) :
    (textPieces pieces).pieces.flatten = pieces.flatten := by
  rw [Source.pieces, beforeEmpty_of_ne_nil h]

theorem flatten_bytePieces {pieces : List (List UInt8)} (h : ∀ p ∈ pieces, p ≠ []) :
    (bytePieces pieces).pieces.flatten = decodeRepairing pieces.flatten := by
  rw [Source.pieces, beforeEmpty_of_ne_nil h, flatten_decodePieces]
  rfl

end Source

/-! ## Steps that see the same text -/

namespace Lexer

/-- Two readers with the same text at the same offset give the same token and again such readers. -/
theorem token_congr {r r' : Reader} (hl : r.toList = r'.toList) (hp : r.position = r'.position) :
    (token r).1 = (token r').1 ∧ (token r).2.toList = (token r').2.toList ∧
      (token r).2.position = (token r').2.position := by
  obtain ⟨ht, hpass⟩ := token_spec r
  obtain ⟨ht', hpass'⟩ := token_spec r'
  refine ⟨?_, ?_, ?_⟩
  · rw [ht, ht', hl, hp]
  · rw [hpass.toList_eq, hpass'.toList_eq, hl]
  · rw [hpass.2, hpass'.2, hl, hp]

theorem following_congr {l l' : Lexer} (hl : l.reader.toList = l'.reader.toList)
    (hp : l.reader.position = l'.reader.position) (n : Nat) : l.following n = l'.following n := by
  induction n generalizing l l' with
  | zero => rfl
  | succ n ih =>
    obtain ⟨ht, hl', hp'⟩ := token_congr hl hp
    have hrest : l.advance.following n = l'.advance.following n := ih hl' hp'
    simp only [following]
    rw [hrest]
    exact congrArg (· :: _) ht

/-- Two sources give the same tokens, however many steps are made. -/
def SameTokens (s s' : Source) : Prop :=
  ∀ n, (Lexer.ofSource s).following n = (Lexer.ofSource s').following n

theorem sameTokens_of_flatten_eq {s s' : Source} (h : s.pieces.flatten = s'.pieces.flatten) :
    SameTokens s s' := by
  intro n
  apply following_congr
  · exact h
  · rfl

theorem sameTokens_text {s : Source} {cs : List Char} (h : s.pieces.flatten = cs) :
    SameTokens s (.text cs) :=
  sameTokens_of_flatten_eq (h.trans (List.append_nil cs).symm)

/-- **Cutting is invisible.** Pieces of characters give the tokens of the whole text, and pieces of
bytes those of the text that the bytes decode to in one go, whatever the cuts; decoding gives one
replacement for each maximal ill-formed subpart, and an encoded text decodes to itself. An empty
piece ends the text, whatever comes after it. -/
theorem sameTokens_of_pieces :
    (∀ pieces : List (List Char), (∀ p ∈ pieces, p ≠ []) →
      SameTokens (.textPieces pieces) (.text pieces.flatten)) ∧
    (∀ pieces : List (List UInt8), (∀ p ∈ pieces, p ≠ []) →
      SameTokens (.bytePieces pieces) (.text (decodeRepairing pieces.flatten))) ∧
    (∀ (bytes : List UInt8) (cs : List Char), decodeRepairing bytes = cs ↔ Repairs bytes cs) ∧
    (∀ (pieces : List (List UInt8)) (cs : List Char), (∀ p ∈ pieces, p ≠ []) →
      pieces.flatten = encodedText cs → SameTokens (.bytePieces pieces) (.text cs)) ∧
    (∀ before after : List (List Char),
      SameTokens (.textPieces (before ++ [] :: after)) (.textPieces before)) ∧
    (∀ before after : List (List UInt8),
      SameTokens (.bytePieces (before ++ [] :: after)) (.bytePieces before)) := by
  refine ⟨fun pieces h => ?_, fun pieces h => ?_, fun bytes cs => repairs_iff.symm,
    fun pieces cs h henc => ?_, fun before after => ?_, fun before after => ?_⟩
  · exact sameTokens_text (Source.flatten_textPieces h)
  · exact sameTokens_text (Source.flatten_bytePieces h)
  · refine sameTokens_text ?_
    rw [Source.flatten_bytePieces h, henc, decodeRepairing_encodedText]
  · refine sameTokens_of_flatten_eq ?_
    simp only [Source.pieces, Source.beforeEmpty_append]
  · refine sameTokens_of_flatten_eq ?_
    simp only [Source.pieces, Source.beforeEmpty_append]

/-- A number cut behind its point, an `é` cut in two, and four bytes of which the first three begin
a character that the fourth does not end. -/
theorem sameTokens_cut_characters :
    SameTokens (.textPieces [['1', '.'], ['5', 'e']]) (.text ['1', '.', '5', 'e']) ∧
    SameTokens (.bytePieces [[0x31, 0xC3], [0xA9]]) (.text ['1', 'é']) ∧
    SameTokens (.bytePieces [[0xF0, 0x9F], [0x98, 0x32]]) (.text ['\uFFFD', '2']) := by
  refine ⟨?_, ?_, ?_⟩
  · exact sameTokens_of_pieces.1 [['1', '.'], ['5', 'e']] (by decide)
  · exact sameTokens_of_pieces.2.2.2.1 _ _ (by decide) (by decide)
  · exact sameTokens_of_pieces.2.1 [[0xF0, 0x9F], [0x98, 0x32]] (by decide)

end Lexer

end Calculator
