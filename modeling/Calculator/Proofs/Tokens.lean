import Calculator.Proofs.Lexeme

/-!
# Reading token after token

A run of the lexer reads tokens up to some reader; it may be cut anywhere. Every reader comes to the
end of its text after at most as many tokens as it has characters, so that `Lexer.tokens`, which
counts its steps, gives all tokens before the end: exactly those that reading step by step gives
before the first end token.
-/

namespace Calculator.Lexer

/-- Reading from `r`, the lexer gives the tokens `ts`, none of them the end, and stands at `r'`. -/
inductive Run : Reader → List Token → Reader → Prop where
  | nil (r : Reader) : Run r [] r
  | cons {r r' : Reader} {ts : List Token} (hk : (token r).1.kind ≠ .eof)
      (h : Run (token r).2 ts r') : Run r ((token r).1 :: ts) r'

theorem Run.append {r r' r'' : Reader} {ts us : List Token} (h : Run r ts r')
    (h' : Run r' us r'') : Run r (ts ++ us) r'' := by
  induction h with
  | nil => exact h'
  | cons hk _ ih => exact .cons hk (ih h')

theorem Run.kind_ne_eof {r r' : Reader} {ts : List Token} (h : Run r ts r') :
    ∀ t ∈ ts, t.kind ≠ .eof := by
  induction h with
  | nil => simp
  | cons hk _ ih =>
    intro t ht
    rcases List.mem_cons.mp ht with rfl | ht
    · exact hk
    · exact ih t ht

/-- Two runs up to the end are the same run. -/
theorem Run.unique {r r' r'' : Reader} {ts us : List Token} (h : Run r ts r')
    (heof : (token r').1.kind = .eof) (h' : Run r us r'') (heof' : (token r'').1.kind = .eof) :
    ts = us ∧ r' = r'' := by
  induction h generalizing us with
  | nil r =>
    cases h' with
    | nil => exact ⟨rfl, rfl⟩
    | cons hk _ => exact absurd heof hk
  | cons hk _ ih =>
    cases h' with
    | nil => exact absurd heof' hk
    | cons _ h' =>
      obtain ⟨rfl, rfl⟩ := ih heof h'
      exact ⟨rfl, rfl⟩

/-- The end is where only blanks are left. -/
theorem kind_token_eq_eof {r : Reader} :
    (token r).1.kind = .eof ↔ ∀ c ∈ r.toList, Text.isBlank c = true := by
  rw [kind_token, lexeme_kind_eq_eof, List.dropWhile_eq_nil_iff]

/-- A step that is not the end reads a word. -/
theorem lexeme_ne_nil_of_kind {r : Reader} (h : (token r).1.kind ≠ .eof) :
    (lexeme (r.toList.dropWhile Text.isBlank)).2 ≠ [] := by
  rw [kind_token, Ne, lexeme_kind_eq_eof] at h
  exact lexeme_ne_nil h

/-- A step that is not the end takes at least one character. -/
theorem remaining_token_lt {r : Reader} (h : (token r).1.kind ≠ .eof) :
    (token r).2.remaining < r.remaining := by
  obtain ⟨-, hp⟩ := token_spec r
  have hne := List.length_pos_iff.mpr (lexeme_ne_nil_of_kind h)
  rw [Reader.remaining, Reader.remaining, hp.1]
  simp only [List.length_append]
  omega

/-- A step that is not the end comes to stand behind the offset of its token. -/
theorem pos_token_lt {r : Reader} (h : (token r).1.kind ≠ .eof) :
    (token r).1.pos < (token r).2.position := by
  obtain ⟨ht, hp⟩ := token_spec r
  have hne := List.length_pos_iff.mpr (lexeme_ne_nil_of_kind h)
  rw [ht, hp.2, List.length_append]
  show r.position + _ < _
  omega

/-- The tokens of a run stand at offsets that increase. -/
theorem Run.pairwise_pos {r r' : Reader} {ts : List Token} (h : Run r ts r') :
    (∀ t ∈ ts, r.position ≤ t.pos) ∧ ts.Pairwise fun t u => t.pos < u.pos := by
  induction h with
  | nil => exact ⟨by simp, .nil⟩
  | @cons r r' ts hk _ ih =>
    obtain ⟨hle, hpairwise⟩ := ih
    have hlt := pos_token_lt hk
    have hpos : r.position ≤ (token r).1.pos := by
      rw [(token_spec r).1]
      exact Nat.le_add_right _ _
    refine ⟨?_, List.pairwise_cons.mpr ⟨?_, hpairwise⟩⟩
    · intro t ht
      rcases List.mem_cons.mp ht with rfl | ht
      · exact hpos
      · have := hle t ht
        omega
    · intro t ht
      exact Nat.lt_of_lt_of_le hlt (hle t ht)

/-- The end token of a step says where the text ends and is otherwise always the same. -/
theorem token_eq_finish {r : Reader} (h : (token r).1.kind = .eof) :
    (token r).1 = .finish (token r).1.pos := by
  have hnil := h
  rw [kind_token, lexeme_kind_eq_eof] at hnil
  rw [(token_spec r).1, hnil]
  rfl

/-- Every text comes to its end, after at most as many tokens as it has characters. -/
theorem exists_run (r : Reader) :
    ∃ ts r', Run r ts r' ∧ (token r').1.kind = .eof ∧ ts.length ≤ r.remaining := by
  induction hn : r.remaining using Nat.strongRecOn generalizing r with
  | _ n ih =>
    by_cases hk : (token r).1.kind = .eof
    · exact ⟨[], r, .nil r, hk, Nat.zero_le _⟩
    · have hlt := remaining_token_lt hk
      rw [hn] at hlt
      obtain ⟨ts, r', hrun, heof, hlen⟩ := ih _ hlt _ rfl
      refine ⟨(token r).1 :: ts, r', .cons hk hrun, heof, ?_⟩
      rw [List.length_cons]
      omega

/-! ## The loop that gathers tokens -/

theorem tokensOnto_of_run {r r' : Reader} {ts : List Token} (h : Run r ts r')
    (heof : (token r').1.kind = .eof) (done : List Token) {fuel : Nat} (hf : ts.length < fuel) :
    tokensOnto done r fuel = (ts.reverse ++ done, (token r').1.pos) := by
  induction h generalizing done fuel with
  | nil r =>
    obtain ⟨fuel, rfl⟩ := Nat.exists_eq_succ_of_ne_zero (Nat.ne_of_gt hf)
    simp [tokensOnto, heof]
  | cons hk _ ih =>
    obtain ⟨fuel, rfl⟩ := Nat.exists_eq_succ_of_ne_zero (Nat.ne_of_gt (Nat.zero_lt_of_lt hf))
    simp only [tokensOnto, hk, if_false]
    rw [ih heof _ (Nat.lt_of_succ_lt_succ hf)]
    simp

/-- A run up to the end is what the loop gathers: its fuel is enough for any text. -/
theorem tokens_of_run {s : Source} {r' : Reader} {ts : List Token}
    (h : Run (.ofSource s) ts r') (heof : (token r').1.kind = .eof) :
    tokens s = (ts, (token r').1.pos) := by
  obtain ⟨us, r'', h', heof', hlen⟩ := exists_run (.ofSource s)
  obtain ⟨rfl, rfl⟩ := h.unique heof h' heof'
  simp only [tokens]
  rw [tokensOnto_of_run h heof [] (Nat.lt_succ_of_le hlen)]
  simp

/-! ## Reading step by step -/

/-- Steps give the tokens of a run first, and go on from its reader. -/
theorem following_of_run {l : Lexer} {r : Reader} {ts : List Token} (h : Run l.reader ts r)
    (n : Nat) : ∃ t, l.following (ts.length + n) = ts ++ following ⟨t, r⟩ n := by
  generalize hr : l.reader = r₀ at h
  induction h generalizing l with
  | nil r =>
    subst hr
    exact ⟨l.current, by simp⟩
  | @cons r₀ r' ts hk _ ih =>
    subst hr
    obtain ⟨t, ht⟩ := ih (l := l.advance) rfl
    refine ⟨t, ?_⟩
    rw [List.length_cons, Nat.add_right_comm, following, ht]
    rfl

/-- Tokens other than the end that steps give first are a run. -/
theorem run_of_following {l : Lexer} {ts us : List Token} {n : Nat}
    (hk : ∀ t ∈ ts, t.kind ≠ .eof) (h : l.following (ts.length + n) = ts ++ us) :
    ∃ t r, Run l.reader ts r ∧ following ⟨t, r⟩ n = us := by
  induction ts generalizing l with
  | nil =>
    refine ⟨l.current, l.reader, .nil _, ?_⟩
    simpa using h
  | cons t ts ih =>
    rw [List.length_cons, Nat.add_right_comm, following, List.cons_append] at h
    obtain ⟨rfl, htail⟩ := List.cons.inj h
    obtain ⟨t', r, hrun, hus⟩ := ih (fun u hu => hk u (List.mem_cons_of_mem _ hu)) htail
    exact ⟨t', r, .cons (hk _ List.mem_cons_self) hrun, hus⟩

/-- Read step by step, a source gives the tokens `ts` and then the end, at the offset `finish`. -/
def Reads (s : Source) (ts : List Token) (finish : Nat) : Prop :=
  (∀ t ∈ ts, t.kind ≠ .eof) ∧
    (Lexer.ofSource s).following (ts.length + 1) = ts ++ [.finish finish]

/-- The tokens that the loop gathers are the ones that steps give. -/
theorem reads_tokens (s : Source) : Reads s (tokens s).1 (tokens s).2 := by
  obtain ⟨ts, r', hrun, heof, -⟩ := exists_run (.ofSource s)
  rw [tokens_of_run hrun heof]
  refine ⟨hrun.kind_ne_eof, ?_⟩
  obtain ⟨t, ht⟩ := following_of_run (l := .ofSource s) hrun 1
  rw [ht, following, ← token_eq_finish heof]
  rfl

theorem Reads.pairwise_pos {s : Source} {ts : List Token} {finish : Nat}
    (h : Reads s ts finish) : ts.Pairwise fun t u => t.pos < u.pos := by
  obtain ⟨t, r, hrun, -⟩ := run_of_following h.1 h.2
  exact hrun.pairwise_pos.2

theorem reads_iff {s : Source} {ts : List Token} {finish : Nat} :
    Reads s ts finish ↔ tokens s = (ts, finish) := by
  constructor
  · rintro ⟨hk, h⟩
    obtain ⟨t, r, hrun, hr⟩ := run_of_following hk h
    have hfin : (token r).1 = .finish finish := (List.cons.inj hr).1
    have heof : (token r).1.kind = .eof := by rw [hfin]; rfl
    rw [tokens_of_run hrun heof, hfin]
    rfl
  · intro h
    have := reads_tokens s
    rwa [h] at this

end Calculator.Lexer
