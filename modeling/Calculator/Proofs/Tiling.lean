import Calculator.Proofs.Groups

/-!
# Tokens tile the text

A text is blanks and words in turn, and the tokens are the words with their offsets. `Lexer.Laid`
says so of a text from some offset on, by recursion on the tokens, and `Lexer.Run.laid` is that the
lexer reads such a layout: it loses no character, reads none twice, and puts no blank into a token.
What the offsets of tokens are good for follows from the layout alone: the text of a token is the
slice of the text at its offset, the slices follow one another, and what lies between is blank.
-/

namespace Calculator

open Lexer

/-! ## Blanks are in no token -/

namespace Text

/-- The code points of a set with the given boundaries, range by range. -/
def codePoints : List Nat → List Nat
  | [] => []
  | [_] => []
  | first :: last :: bs => List.range' first (last - first) ++ codePoints bs

/-- Boundaries that come in pairs bound ranges, and nothing lies in the set but in a range. -/
theorem mem_codePoints {bs : List Nat} (heven : bs.length % 2 = 0) {n : Nat}
    (h : insideAt false bs n = true) : n ∈ codePoints bs := by
  induction bs using codePoints.induct with
  | case1 => cases h
  | case2 first => cases heven
  | case3 first last bs ih =>
    simp only [insideAt, Bool.not_false, Bool.not_true] at h
    simp only [codePoints, List.mem_append, List.mem_range'_1]
    split at h
    · cases h
    · split at h
      · exact .inl (by omega)
      · rw [List.length_cons, List.length_cons] at heven
        exact .inr (ih (by omega) h)

end Text

namespace Lexer

/-- A blank ends whatever token stands before it. -/
theorem endsToken_of_isBlank {c : Char} (h : Text.isBlank c = true) : EndsToken c := by
  have hall : ∀ n ∈ Text.codePoints Text.blankBoundaries, EndsToken (Char.ofNat n) := by
    decide +kernel
  have hc := hall c.toNat (Text.mem_codePoints rfl h)
  rwa [Char.ofNat_toNat] at hc

/-- A text begins with its lexeme. -/
theorem lexeme_append_drop (cs : List Char) :
    (lexeme cs).2 ++ cs.drop (lexeme cs).2.length = cs := by
  have hp := (tokenHere_spec ⟨cs, 0, []⟩).2
  have hl : (Reader.mk cs 0 []).toList = cs := List.append_nil cs
  have hdrop := hp.toList_eq
  have hall := hp.1
  rw [hl] at hdrop hall
  rw [← hdrop]
  exact hall.symm

/-- Where blanks were passed over, no blank follows. -/
theorem isBlank_head_dropWhile (cs : List Char) :
    ∀ c ∈ (cs.dropWhile Text.isBlank).head?, Text.isBlank c = false := by
  intro c hc
  have hhead := List.head?_dropWhile_not Text.isBlank cs
  rw [Option.mem_def.mp hc] at hhead
  simpa using hhead

/-- No character of a lexeme is blank, unless the text begins with a blank. -/
theorem isBlank_of_mem_lexeme {cs : List Char} {c : Char}
    (hhead : ∀ d ∈ cs.head?, Text.isBlank d = false) (h : c ∈ (lexeme cs).2) :
    Text.isBlank c = false := by
  rcases mem_lexeme h with hsymbol | hnumber | hname
  · have hcs := lexeme_append_drop cs
    rw [hsymbol] at hcs
    exact hhead c (by rw [← hcs]; rfl)
  · by_contra hblank
    rw [Bool.not_eq_false] at hblank
    rw [(endsToken_of_isBlank hblank).1] at hnumber
    cases hnumber
  · by_contra hblank
    rw [Bool.not_eq_false] at hblank
    rw [(endsToken_of_isBlank hblank).2] at hname
    cases hname

/-! ## The layout of a text -/

/-- A text is laid out, from the offset `start` on, as blanks and words in turn, with one word for
each of the tokens. -/
inductive Laid : Nat → List Char → List Token → Prop where
  | blank {start : Nat} {cs : List Char} (h : ∀ c ∈ cs, Text.isBlank c = true) : Laid start cs []
  | word {start : Nat} {blanks word rest : List Char} {kind : TokenKind} {ts : List Token}
      (hblanks : ∀ c ∈ blanks, Text.isBlank c = true) (hne : word ≠ [])
      (hword : ∀ c ∈ word, Text.isBlank c = false)
      (h : Laid (start + blanks.length + word.length) rest ts) :
      Laid start (blanks ++ (word ++ rest))
        (⟨kind, String.ofList word, start + blanks.length⟩ :: ts)

/-- **The lexer reads a layout**: a run up to the end reads the tokens of the text's layout. -/
theorem Run.laid {r r' : Reader} {ts : List Token} (h : Run r ts r')
    (heof : (token r').1.kind = .eof) : Laid r.position r.toList ts := by
  induction h with
  | nil r => exact .blank (kind_token_eq_eof.mp heof)
  | @cons r r' ts hk _ ih =>
    obtain ⟨ht, hp⟩ := token_spec r
    have hrest := ih heof
    rw [hp.2, List.length_append, ← Nat.add_assoc] at hrest
    have hlaid : r.toList = r.toList.takeWhile Text.isBlank ++
        ((lexeme (r.toList.dropWhile Text.isBlank)).2 ++ (token r).2.toList) := by
      rw [← List.append_assoc]
      exact hp.1
    rw [ht]
    nth_rewrite 1 [hlaid]
    exact .word (fun c hc => List.mem_takeWhile_imp hc) (lexeme_ne_nil_of_kind hk)
      (fun c hc => isBlank_of_mem_lexeme (isBlank_head_dropWhile _) hc) hrest

end Lexer

/-! ## Slices, offsets and blanks -/

/-- The span of a token covers an offset. -/
def Token.Covers (t : Token) (i : Nat) : Prop := t.pos ≤ i ∧ i < t.pos + t.text.length

/-- Tokens tile a text: each is a slice that is not empty, at its offset; each begins where the one
before it ends or later; and a character is blank just if no token covers it. -/
structure Tiles (cs : List Char) (ts : List Token) : Prop where
  nonempty : ∀ t ∈ ts, t.text ≠ ""
  slice : ∀ t ∈ ts, t.text.toList = (cs.drop t.pos).take t.text.length
  increasing : ts.Pairwise fun t u => t.pos + t.text.length ≤ u.pos
  blank : ∀ i c, cs[i]? = some c → (Text.isBlank c = true ↔ ∀ t ∈ ts, ¬ t.Covers i)

namespace Lexer.Laid

variable {start : Nat} {cs : List Char} {ts : List Token}

theorem nonempty (h : Laid start cs ts) : ∀ t ∈ ts, t.text ≠ "" := by
  induction h with
  | blank => simp
  | word _ hne _ _ ih =>
    intro t ht
    rcases List.mem_cons.mp ht with rfl | ht
    · simpa using hne
    · exact ih t ht

theorem start_le (h : Laid start cs ts) : ∀ t ∈ ts, start ≤ t.pos := by
  induction h with
  | blank => simp
  | word _ _ _ _ ih =>
    intro t ht
    rcases List.mem_cons.mp ht with rfl | ht
    · exact Nat.le_add_right _ _
    · have := ih t ht
      omega

theorem increasing (h : Laid start cs ts) :
    ts.Pairwise fun t u => t.pos + t.text.length ≤ u.pos := by
  induction h with
  | blank => exact .nil
  | word _ _ _ h ih =>
    refine List.pairwise_cons.mpr ⟨?_, ih⟩
    intro u hu
    simpa using h.start_le u hu

theorem slice (h : Laid start cs ts) :
    ∀ t ∈ ts, t.text.toList = (cs.drop (t.pos - start)).take t.text.length := by
  induction h with
  | blank => simp
  | @word start blanks word rest kind ts _ _ _ h ih =>
    intro t ht
    rcases List.mem_cons.mp ht with rfl | ht
    · simp
    · -- the slice lies behind the first word
      have hle := h.start_le t ht
      have hpos : t.pos - start =
          blanks.length + (word.length + (t.pos - (start + blanks.length + word.length))) := by
        omega
      rw [ih t ht, hpos, List.drop_length_add_append, List.drop_length_add_append]

/-- A character stands in the blanks before the first word, in that word, or behind it. -/
theorem blank_iff (h : Laid start cs ts) :
    ∀ i c, cs[i]? = some c → (Text.isBlank c = true ↔ ∀ t ∈ ts, ¬ t.Covers (start + i)) := by
  induction h with
  | blank h =>
    intro i c hc
    simp [h c (List.mem_of_getElem? hc)]
  | @word start blanks word rest kind ts hblanks _ hword h ih =>
    intro i c hc
    by_cases hi : i < blanks.length
    · rw [List.getElem?_append_left hi] at hc
      refine iff_of_true (hblanks c (List.mem_of_getElem? hc)) ?_
      intro t ht hcovers
      rcases List.mem_cons.mp ht with rfl | ht
      · have := hcovers.1
        simp only at this
        omega
      · have := h.start_le t ht
        have := hcovers.1
        omega
    · rw [List.getElem?_append_right (by omega)] at hc
      by_cases hi' : i - blanks.length < word.length
      · rw [List.getElem?_append_left hi'] at hc
        have hnot := hword c (List.mem_of_getElem? hc)
        refine iff_of_false (by simp [hnot]) ?_
        intro hall
        refine hall _ List.mem_cons_self ⟨?_, ?_⟩
        · show start + blanks.length ≤ start + i
          omega
        · show start + i < start + blanks.length + (String.ofList word).length
          rw [String.length_ofList]
          omega
      · rw [List.getElem?_append_right (by omega)] at hc
        have hoffset : start + blanks.length + word.length +
            (i - blanks.length - word.length) = start + i := by omega
        rw [ih _ c hc, hoffset, List.forall_mem_cons]
        refine (and_iff_right ?_).symm
        rintro ⟨-, hlt⟩
        simp only [String.length_ofList] at hlt
        omega

theorem tiles (h : Laid 0 cs ts) : Tiles cs ts where
  nonempty := h.nonempty
  slice := h.slice
  increasing := h.increasing
  blank i c hc := by simpa using h.blank_iff i c hc

end Lexer.Laid

/-! ## The end of the text -/

namespace Lexer

/-- Reading tokens moves the reader on, and the end of the text stays where it is. -/
theorem Run.finish_eq {r r' : Reader} {ts : List Token} (h : Run r ts r') :
    r'.position + r'.toList.length = r.position + r.toList.length := by
  induction h with
  | nil r => rfl
  | @cons r r' ts _ _ ih =>
    obtain ⟨-, hl, hpos⟩ := token_spec r
    have hlength := congrArg List.length hl
    rw [List.length_append] at hlength
    omega

/-- Where only blanks are left, every step gives the end of the text, at the same offset. -/
theorem following_of_blank {l : Lexer} (h : ∀ c ∈ l.reader.toList, Text.isBlank c = true)
    (n : Nat) :
    l.following n =
      List.replicate n (.finish (l.reader.position + l.reader.toList.length)) := by
  induction n generalizing l with
  | zero => rfl
  | succ n ih =>
    obtain ⟨ht, hp⟩ := token_spec l.reader
    rw [List.dropWhile_eq_nil_iff.mpr h, List.takeWhile_eq_self_iff.mpr h] at ht hp
    simp only [lexeme, List.append_nil] at ht hp
    have hrest : (token l.reader).2.toList = [] := by
      rw [hp.toList_eq, List.drop_length]
    have hnext := ih (l := l.advance) (by
      show ∀ c ∈ (token l.reader).2.toList, _
      simp [hrest])
    have hfinish : l.advance.reader.position + l.advance.reader.toList.length =
        l.reader.position + l.reader.toList.length := by
      show (token l.reader).2.position + (token l.reader).2.toList.length = _
      rw [hrest, hp.2]
      rfl
    rw [hfinish] at hnext
    rw [following, hnext, List.replicate_succ]
    exact congrArg (· :: _) ht

end Lexer

/-- Read step by step, a source gives tokens that tile the text, at most as many as it has characters,
then the end of the text, at the offset of its length, and with every further step that same end
again. -/
def TokensTile (s : Source) (cs : List Char) : Prop :=
  ∃ ts : List Token, ts.length ≤ cs.length ∧
    (∀ t ∈ ts, t.kind ≠ .eof) ∧
    (∀ n, (Lexer.ofSource s).following (ts.length + n) =
      ts ++ List.replicate n (.finish cs.length)) ∧
    Tiles cs ts

/-- What a source gives piece by piece is tiled. -/
theorem tokensTile_pieces (s : Source) : TokensTile s s.pieces.flatten := by
  obtain ⟨ts, r, hrun, heof, hlength⟩ := exists_run (.ofSource s)
  refine ⟨ts, hlength, hrun.kind_ne_eof, ?_, (hrun.laid heof).tiles⟩
  intro n
  obtain ⟨t, hsteps⟩ := following_of_run (l := .ofSource s) hrun n
  have hfinish := hrun.finish_eq
  rw [Reader.position_ofSource, Nat.zero_add, Reader.toList_ofSource] at hfinish
  rw [hsteps, following_of_blank (kind_token_eq_eof.mp heof), hfinish]

/-- **Tokens tile the text**, whether it is at hand as a whole or comes in pieces. -/
theorem tokens_tile :
    (∀ cs, TokensTile (.text cs) cs) ∧ ∀ s : Source, TokensTile s s.pieces.flatten := by
  refine ⟨fun cs => ?_, tokensTile_pieces⟩
  have htile := tokensTile_pieces (.text cs)
  rwa [Reader.flatten_text] at htile

/-- Three tokens tile ` 12 *é `, and all that follows them is the end of the text. -/
theorem tokens_tile_product :
    (Lexer.ofSource (.text " 12 *é ".toList)).following 5 =
      [⟨.whole, "12", 1⟩, ⟨.symbol, "*", 4⟩, ⟨.name, "é", 5⟩, .finish 7, .finish 7] ∧
    Tiles " 12 *é ".toList [⟨.whole, "12", 1⟩, ⟨.symbol, "*", 4⟩, ⟨.name, "é", 5⟩] := by
  have hread : ((Lexer.ofSource (.text " 12 *é ".toList)).following 7).filter (·.kind ≠ .eof) =
      [⟨.whole, "12", 1⟩, ⟨.symbol, "*", 4⟩, ⟨.name, "é", 5⟩] := by decide +kernel
  obtain ⟨ts, hlength, hkind, hfollowing, htiles⟩ := tokens_tile.1 " 12 *é ".toList
  -- the tokens of the tiling are those that are not the end of the text
  have hts : ts = [⟨.whole, "12", 1⟩, ⟨.symbol, "*", 4⟩, ⟨.name, "é", 5⟩] := by
    have hsteps := hfollowing (7 - ts.length)
    have hseven : ts.length + (7 - ts.length) = 7 := Nat.add_sub_cancel' hlength
    have hkept : ts.filter (·.kind ≠ .eof) = ts := List.filter_eq_self.mpr (by simpa using hkind)
    rw [hseven] at hsteps
    rw [← hread, hsteps, List.filter_append, hkept]
    simp [Token.finish]
  subst hts
  exact ⟨hfollowing 2, htiles⟩

end Calculator
