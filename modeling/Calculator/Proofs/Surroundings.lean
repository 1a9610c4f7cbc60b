import Calculator.Proofs.Tiling
import Calculator.Proofs.Writing

/-!
# What surrounds a token

A token ends where its own scanner stops, and the scanner looks at one character more. So a token is
read again wherever its text is followed by the same character, by one that ends every token, or by
nothing at all. `Stable` says so of a scanner, and `lexeme_stable` of the lexer. It carries over to
a run, which reads the same words from the same characters: what stands before them does not matter,
and of what stands behind them only the first character does.
-/

namespace Calculator

/-- What a token is and how it is written, wherever it stands. -/
def Token.word (t : Token) : TokenKind × String := (t.kind, t.text)

namespace Lexer

open Reader (firstIf)

/-- What may stand behind a token in the place of `rest`: it begins alike, or with a character that
ends every token, or it is empty. -/
def Replaces (rest rest' : List Char) : Prop := ∀ c ∈ rest'.head?, c ∈ rest.head? ∨ EndsToken c

section Replaces

variable {rest rest' : List Char}

theorem Replaces.refl (rest : List Char) : Replaces rest rest := fun _ hc => .inl hc

theorem Replaces.of_endsToken {c : Char} (hc : EndsToken c) (rest cs : List Char) :
    Replaces rest (c :: cs) := by
  intro d hd
  rw [List.head?_cons, Option.mem_some_iff] at hd
  exact .inr (hd ▸ hc)

/-- The same text in front. -/
theorem Replaces.append (h : Replaces rest rest') (cs : List Char) :
    Replaces (cs ++ rest) (cs ++ rest') := by
  cases cs with
  | nil => exact h
  | cons c cs => exact .refl _

/-- A class of characters that what stands there did not go on with. -/
theorem Replaces.head (h : Replaces rest rest') {p : Char → Bool}
    (hp : ∀ c, EndsToken c → p c = false) (hrest : ∀ c ∈ rest.head?, p c = false) :
    ∀ c ∈ rest'.head?, p c = false := by
  intro c hc
  rcases h c hc with hsame | hends
  · exact hrest c hsame
  · exact hp c hends

end Replaces

/-! ## Scanners -/

/-- A scanner that takes a text in front of some other one takes it again in front of what may stand
there in its place. -/
def Stable (scan : List Char → List Char) : Prop :=
  ∀ cs rest rest', Replaces rest rest' → scan (cs ++ rest) = cs → scan (cs ++ rest') = cs

section Scanners

variable {p : Char → Bool} {scan scan' : List Char → List Char}

theorem stable_takeWhile (hp : ∀ c, EndsToken c → p c = false) : Stable (List.takeWhile p) := by
  intro cs rest rest' hr h
  have hall : ∀ c ∈ cs, p c = true := fun c hc => List.mem_takeWhile_imp (h ▸ hc)
  rw [List.takeWhile_append_of_pos hall, List.append_right_eq_self] at h
  have hrest : ∀ c ∈ rest.head?, p c = false := by
    cases rest with
    | nil => simp
    | cons d ds => simpa [List.takeWhile_cons] using h
  have hstop : rest'.takeWhile p = [] := by
    have hhead := hr.head hp hrest
    cases rest' with
    | nil => rfl
    | cons d ds => simpa [List.takeWhile_cons] using hhead
  rw [List.takeWhile_append_of_pos hall, hstop, List.append_nil]

theorem stable_firstIf (hp : ∀ c, EndsToken c → p c = false) : Stable (firstIf p) := by
  intro cs rest rest' hr h
  cases cs with
  | cons c cs => exact h
  | nil =>
    have hrest : ∀ c ∈ rest.head?, p c = false := by
      cases rest with
      | nil => simp
      | cons d ds => simpa [firstIf] using h
    have hhead := hr.head hp hrest
    cases rest' with
    | nil => rfl
    | cons d ds => simpa [firstIf] using hhead

/-- One scanner, and then another one on what is left. -/
theorem Stable.andThen (h : Stable scan) (h' : Stable scan') :
    Stable fun cs => scan cs ++ scan' (cs.drop (scan cs).length) := by
  intro cs rest rest' hr hcs
  simp only at hcs ⊢
  generalize ha : scan (cs ++ rest) = a at hcs
  generalize hb : scan' ((cs ++ rest).drop a.length) = b at hcs
  subst hcs
  rw [List.append_assoc] at ha hb ⊢
  rw [List.drop_left] at hb
  rw [h a (b ++ rest) (b ++ rest') (hr.append b) ha, List.drop_left, h' b rest rest' hr hb]

/-- A scanner that goes on with another one unless it takes nothing. -/
theorem Stable.ifAny (h : Stable scan) (h' : Stable scan') :
    Stable fun cs => if (scan cs).isEmpty then [] else
      scan cs ++ scan' (cs.drop (scan cs).length) := by
  intro cs rest rest' hr hcs
  simp only at hcs ⊢
  split at hcs
  · rename_i hempty
    subst hcs
    rw [List.isEmpty_iff] at hempty
    rw [h [] rest rest' hr hempty]
    rfl
  · rename_i hne
    generalize ha : scan (cs ++ rest) = a at hcs hne
    generalize hb : scan' ((cs ++ rest).drop a.length) = b at hcs
    subst hcs
    rw [List.append_assoc] at ha hb ⊢
    rw [List.drop_left] at hb
    rw [h a (b ++ rest) (b ++ rest') (hr.append b) ha, List.drop_left, h' b rest rest' hr hb,
      if_neg hne]

end Scanners

/-! ## Numbers and lexemes -/

/-- A character that stands in no number is none of its parts. -/
theorem EndsToken.inNumber {c : Char} (h : EndsToken c) : c.isDigit = false ∧ c ≠ '.' ∧ c ≠ 'e' ∧
    c ≠ 'E' ∧ c ≠ '+' ∧ c ≠ '-' := by
  simpa [Lexer.inNumber] using h.1

theorem stable_digits : Stable (List.takeWhile Char.isDigit) :=
  stable_takeWhile fun _ hc => hc.inNumber.1

theorem stable_fractionOf : Stable fractionOf :=
  (stable_firstIf (p := fun c => c = '.') fun c hc => by simp [hc.inNumber]).ifAny stable_digits

theorem stable_exponentOf : Stable exponentOf := by
  have hmark : Stable (firstIf fun c => c = 'e' || c = 'E') :=
    stable_firstIf fun c hc => by simp [hc.inNumber]
  have hsign : Stable (firstIf fun c => c = '+' || c = '-') :=
    stable_firstIf fun c hc => by simp [hc.inNumber]
  have hscan := hmark.ifAny (hsign.andThen stable_digits)
  simpa only [Stable, exponentOf, List.append_assoc] using hscan

variable {rest rest' : List Char} {kind : TokenKind}

/-- The parts of a number are scanned again, so its kind is the same too. -/
theorem numberOf_stable (cs : List Char) (hr : Replaces rest rest')
    (h : numberOf (cs ++ rest) = (kind, cs)) :
    numberOf (cs ++ rest') = (kind, cs) := by
  simp only [numberOf, Prod.mk.injEq] at h ⊢
  obtain ⟨hkind, hcs⟩ := h
  generalize hd : (cs ++ rest).takeWhile Char.isDigit = digits at hkind hcs
  generalize hf : fractionOf ((cs ++ rest).drop digits.length) = fraction at hkind hcs
  generalize he : exponentOf (((cs ++ rest).drop digits.length).drop fraction.length) = exponent
    at hkind hcs
  subst hcs
  simp only [List.append_assoc] at hd hf he ⊢
  rw [List.drop_left] at hf he
  rw [List.drop_left] at he
  rw [stable_digits digits _ (fraction ++ (exponent ++ rest')) ((hr.append _).append _) hd,
    List.drop_left, stable_fractionOf fraction _ (exponent ++ rest') (hr.append _) hf,
    List.drop_left, stable_exponentOf exponent _ rest' hr he]
  exact ⟨hkind, rfl⟩

/-- The digits and the exponent of a number behind its point. -/
theorem pointNumberOf_stable (cs : List Char) (hr : Replaces rest rest')
    (h : pointNumberOf (cs ++ rest) = '.' :: cs) : pointNumberOf (cs ++ rest') = '.' :: cs := by
  simp only [pointNumberOf, List.cons_append, List.cons.injEq, true_and] at h ⊢
  exact stable_digits.andThen stable_exponentOf cs rest rest' hr h

/-- A point is the beginning of a number or a symbol, as a digit stands behind it or not. -/
theorem point_stable (cs : List Char) (hr : Replaces rest rest')
    (h : lexeme ('.' :: (cs ++ rest)) = (kind, '.' :: cs)) :
    lexeme ('.' :: (cs ++ rest')) = (kind, '.' :: cs) := by
  have hpoint : ∀ ds, lexeme ('.' :: ds) =
      if ds.head?.any Char.isDigit then (.decimal, pointNumberOf ds) else (.symbol, ['.']) :=
    fun _ => rfl
  rw [hpoint] at h ⊢
  cases cs with
  | cons d ds =>
    -- what decides is the same character
    rw [List.cons_append, List.head?_cons] at h ⊢
    split at h
    · rename_i hd
      rw [if_pos hd]
      simp only [Prod.mk.injEq] at h ⊢
      exact ⟨h.1, pointNumberOf_stable (d :: ds) hr h.2⟩
    · cases h
  | nil =>
    have hrest : ∀ c ∈ rest.head?, c.isDigit = false := by
      intro c hc
      by_contra hdigit
      rw [Bool.not_eq_false] at hdigit
      obtain ⟨ds, rfl⟩ : ∃ ds, rest = c :: ds := List.head?_eq_some_iff.mp hc
      simp [hdigit, pointNumberOf] at h
    have hrest' := hr.head (fun _ hc => hc.inNumber.1) hrest
    have hnot : ∀ ds : List Char, (∀ c ∈ ds.head?, c.isDigit = false) →
        ds.head?.any Char.isDigit = false := by
      intro ds hds
      cases ds with
      | nil => rfl
      | cons c ds => exact hds c rfl
    rw [List.nil_append, hnot rest hrest] at h
    rw [List.nil_append, hnot rest' hrest']
    exact h

/-- **A lexeme needs nothing of what surrounds it** but that it is not gone on with. -/
theorem lexeme_stable {cs : List Char} (hne : cs ≠ []) (hr : Replaces rest rest')
    (h : lexeme (cs ++ rest) = (kind, cs)) : lexeme (cs ++ rest') = (kind, cs) := by
  obtain ⟨c, cs, rfl⟩ := List.exists_cons_of_ne_nil hne
  rw [List.cons_append] at h ⊢
  by_cases hpoint : c = '.'
  · subst hpoint
    exact point_stable cs hr h
  simp only [lexeme] at h ⊢
  by_cases hdigit : c.isDigit = true
  · simp only [hdigit, if_true] at h ⊢
    exact numberOf_stable (c :: cs) hr h
  by_cases hname : startsName c = true
  · simp only [hdigit, hpoint, hname, if_true, if_false, Bool.false_eq_true,
      Prod.mk.injEq] at h ⊢
    exact ⟨h.1, stable_takeWhile (fun _ hc => hc.2) (c :: cs) rest rest' hr h.2⟩
  · simp only [hdigit, hpoint, hname, if_false, Bool.false_eq_true] at h ⊢
    exact h

/-! ## Runs -/

/-- A run moves its reader on. -/
theorem Run.exists_passes {r r' : Reader} {ts : List Token} (h : Run r ts r') :
    ∃ taken, r.Passes taken r' := by
  induction h with
  | nil r => exact ⟨[], .of_eq rfl rfl⟩
  | @cons r r' ts _ _ ih =>
    obtain ⟨taken, htaken⟩ := ih
    exact ⟨_, (token_spec r).2.trans htaken⟩

/-- A run over two lists of tokens comes to a place between them. -/
theorem Run.exists_between {r r' : Reader} {ts us : List Token} (h : Run r (ts ++ us) r') :
    ∃ r'', Run r ts r'' ∧ Run r'' us r' := by
  induction ts generalizing r with
  | nil => exact ⟨r, .nil r, h⟩
  | cons t ts ih =>
    cases h with
    | cons hk h =>
      obtain ⟨r'', hts, hus⟩ := ih h
      exact ⟨r'', .cons hk hts, hus⟩

/-- **A word is read again** behind any blanks, in front of anything that may stand in the place of
what stood behind it. -/
theorem run_word {r q : Reader} (hk : (token r).1.kind ≠ .eof) {blanks rest : List Char}
    (hb : ∀ c ∈ blanks, Text.isBlank c = true) (hr : Replaces (token r).2.toList rest)
    (hq : q.toList = blanks ++ ((token r).1.text.toList ++ rest)) :
    ∃ t q', Run q [t] q' ∧ q'.toList = rest ∧ t.word = (token r).1.word := by
  obtain ⟨ht, hp⟩ := token_spec r
  have hne := lexeme_ne_nil_of_kind hk
  have hhead := isBlank_head_dropWhile r.toList
  have hall := List.takeWhile_append_dropWhile (p := Text.isBlank) (l := r.toList)
  rw [ht, String.toList_ofList] at hq
  rw [ht]
  generalize r.toList.dropWhile Text.isBlank = tail at *
  -- the lexeme stands in front of what the reader has yet to give
  have htail : tail = (lexeme tail).2 ++ (token r).2.toList := by
    have hboth := hall.trans hp.1
    rw [List.append_assoc] at hboth
    exact List.append_cancel_left hboth
  have hthere : lexeme ((lexeme tail).2 ++ (token r).2.toList) = lexeme tail := by rw [← htail]
  have hlexeme := lexeme_stable hne hr hthere
  have hfirst : ∀ c ∈ ((lexeme tail).2 ++ rest).head?, Text.isBlank c = false := by
    intro c hc
    refine hhead c ?_
    rw [htail]
    rwa [List.head?_append_of_ne_nil _ hne] at hc ⊢
  obtain ⟨q', hrun, hpass⟩ := run_lexeme hb hq (List.append_ne_nil_of_left_ne_nil hne _) hfirst
  rw [hlexeme] at hrun hpass
  refine ⟨_, q', hrun, ?_, rfl⟩
  have hboth := hq.symm.trans hpass.1
  rw [← List.append_assoc] at hboth
  exact (List.append_cancel_left hboth).symm

/-- The same characters give the same word, in front of anything that may stand in the place of what
stood behind them. -/
theorem token_elsewhere {r : Reader} (hk : (token r).1.kind ≠ .eof) :
    ∃ taken, r.toList = taken ++ (token r).2.toList ∧
      ∀ (q : Reader) (rest : List Char), Replaces (token r).2.toList rest →
        q.toList = taken ++ rest →
        ∃ t q', Run q [t] q' ∧ q'.toList = rest ∧ t.word = (token r).1.word := by
  obtain ⟨ht, hp⟩ := token_spec r
  have hblanks : ∀ c ∈ r.toList.takeWhile Text.isBlank, Text.isBlank c = true :=
    fun c hc => List.mem_takeWhile_imp hc
  refine ⟨_, hp.1, fun q rest hr hq => run_word hk hblanks hr ?_⟩
  rw [ht, String.toList_ofList, hq, List.append_assoc]

/-- **The same characters give the same words**, whatever stands before them, and in front of
anything that may stand in the place of what stood behind them. -/
theorem Run.elsewhere {r r' q : Reader} {ts : List Token} {cs rest : List Char} (h : Run r ts r')
    (hcs : r.toList = cs ++ r'.toList) (hr : Replaces r'.toList rest)
    (hq : q.toList = cs ++ rest) :
    ∃ us q', Run q us q' ∧ q'.toList = rest ∧ us.map Token.word = ts.map Token.word := by
  induction h generalizing q cs with
  | nil r =>
    obtain rfl : cs = [] := List.append_left_eq_self.mp hcs.symm
    exact ⟨[], q, .nil q, hq, rfl⟩
  | @cons r r' ts hk h ih =>
    obtain ⟨taken, htaken, hfirst⟩ := token_elsewhere hk
    obtain ⟨more, hmore, -⟩ := h.exists_passes
    obtain rfl : cs = taken ++ more := by
      rw [htaken, hmore, ← List.append_assoc] at hcs
      exact (List.append_cancel_right hcs).symm
    rw [List.append_assoc] at hq
    rw [hmore] at hfirst
    obtain ⟨t, q₁, hrun, hq₁, hword⟩ := hfirst q (more ++ rest) (hr.append more) hq
    obtain ⟨us, q₂, hruns, hq₂, hwords⟩ := ih hmore hr hq₁
    refine ⟨t :: us, q₂, hrun.append hruns, hq₂, ?_⟩
    rw [List.map_cons, List.map_cons, hword, hwords]

end Lexer
end Calculator
