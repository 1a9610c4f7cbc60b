import Calculator.Proofs.EagerMode
import Calculator.Proofs.Leading

/-!
# Random expressions are valid

Whatever is drawn, a random expression is read again, has as many numbers as were asked for, and has
a value. What the generator keeps of the text that it has written is enough to tell what the parser
makes of it: the groups that it has opened are the groups on the parser's way, and its note of a
division sign is the parser's. Each part of a term keeps that, so a loop of any length does, and in
the end the open groups are closed.
-/

namespace Calculator

/-! ## Parentheses -/

/-- No beginning of a text closes more groups than it has opened, nor has more than `limit` of them
open; at its end, `depth` groups are open. -/
structure Nests (limit depth : Nat) (cs : List Char) : Prop where
  total : cs.count '(' = cs.count ')' + depth
  within : ∀ ds, ds <+: cs → ds.count ')' ≤ ds.count '(' ∧ ds.count '(' ≤ ds.count ')' + limit

section Nests

variable {limit depth : Nat} {cs : List Char}

theorem nests_nil (limit : Nat) : Nests limit 0 [] := by
  refine ⟨rfl, ?_⟩
  intro ds hds
  rw [List.prefix_nil.mp hds]
  simp

theorem Nests.depth_le (h : Nests limit depth cs) : depth ≤ limit := by
  have := h.total
  have := (h.within cs (List.prefix_refl cs)).2
  omega

/-- One character more. -/
theorem Nests.concat (h : Nests limit depth cs) {c : Char} {depth' : Nat}
    (htotal : (cs ++ [c]).count '(' = (cs ++ [c]).count ')' + depth') (hle : depth' ≤ limit) :
    Nests limit depth' (cs ++ [c]) := by
  refine ⟨htotal, ?_⟩
  intro ds hds
  rcases List.prefix_concat_iff.mp hds with rfl | hds
  · omega
  · exact h.within ds hds

theorem Nests.openGroup (h : Nests limit depth cs) (hlt : depth < limit) :
    Nests limit (depth + 1) (cs ++ ['(']) := by
  have := h.total
  exact h.concat (by simp; omega) hlt

theorem Nests.closeGroup (h : Nests limit (depth + 1) cs) : Nests limit depth (cs ++ [')']) := by
  have := h.total
  exact h.concat (by simp; omega) (Nat.le_of_succ_le h.depth_le)

/-- Other characters do not count. -/
theorem Nests.append (h : Nests limit depth cs) {ds : List Char} (hopen : '(' ∉ ds)
    (hclose : ')' ∉ ds) : Nests limit depth (cs ++ ds) := by
  induction ds generalizing cs with
  | nil => simpa using h
  | cons c ds ih =>
    rw [List.mem_cons, not_or] at hopen hclose
    have htotal : (cs ++ [c]).count '(' = (cs ++ [c]).count ')' + depth := by
      simp [Ne.symm hopen.1, Ne.symm hclose.1, h.total]
    simpa using ih (h.concat htotal h.depth_le) hopen.2 hclose.2

end Nests

namespace Generator

variable {σ : Type} (draws : Draws σ) {d : Draft} {n : Nat}

/-! ## Drafts -/

/-- The text that was written so far. -/
def Draft.text (d : Draft) : List Char := (String.join d.pieces.reverse).toList

@[simp] theorem Draft.text_write (d : Draft) (piece : String) :
    (d.write piece).text = d.text ++ piece.toList := by
  simp [text, write]

/-- A draft whose text leads to partial expressions of the given kind, with the open groups of the
draft. -/
structure Draft.Follows (d : Draft) (good : Partial → Prop) : Prop where
  leads : Leads d.text good
  nests : Nests maxDepth d.opened.length d.text

/-- Behind `n` numbers, a term must follow. -/
def Draft.AwaitsTerm (d : Draft) (n : Nat) : Prop :=
  d.Follows (BeforeTerm d.afterDivision d.opened.length n)

/-- Behind `n` numbers, a number must follow. -/
def Draft.AwaitsNumber (d : Draft) (n : Nat) : Prop :=
  d.Follows (BeforeNumber d.afterDivision d.opened.length n)

/-- A term has been written, the `n`-th one. -/
def Draft.EndsTerm (d : Draft) (n : Nat) : Prop := d.Follows (BehindTerm d.opened.length n)

theorem awaitsTerm_empty : Draft.AwaitsTerm {} 0 := ⟨leads_start, nests_nil maxDepth⟩

/-- A piece without parentheses. -/
theorem Draft.Follows.write {good good' : Partial → Prop} (h : d.Follows good) {piece : String}
    (hleads : Leads (d.text ++ piece.toList) good') (hopen : '(' ∉ piece.toList)
    (hclose : ')' ∉ piece.toList) : (d.write piece).Follows good' := by
  refine ⟨?_, ?_⟩
  · rw [text_write]
    exact hleads
  · rw [text_write]
    exact h.nests.append hopen hclose

/-! ## One term -/

theorem openGroup_awaitsTerm (h : d.AwaitsTerm n) (index : Nat) (s : σ) :
    (openGroup draws index d s).1.AwaitsTerm n := by
  simp only [openGroup]
  split
  · -- the guard is what keeps a group from being a divisor, and the nesting within its bound
    rename_i hguard
    obtain ⟨hdivision, hlt⟩ : d.afterDivision = false ∧ d.opened.length < maxDepth := by
      simpa using hguard
    split
    · have hleads := h.leads
      rw [hdivision] at hleads
      refine ⟨?_, ?_⟩
      · show Leads (d.write "(").text (BeforeTerm d.afterDivision (d.opened.length + 1) n)
        rw [Draft.text_write, hdivision]
        exact hleads.openGroup (Nat.le_of_lt hlt)
      · show Nests maxDepth (d.opened.length + 1) (d.write "(").text
        rw [Draft.text_write]
        exact h.nests.openGroup hlt
    · exact h
  · exact h

theorem signNumber_awaitsNumber (h : d.AwaitsTerm n) (s : σ) :
    (signNumber draws d s).1.AwaitsNumber n := by
  have hsigned : ∀ sign : Sign, (d.write sign.text).AwaitsNumber n := by
    intro sign
    refine h.write (h.leads.sign h.nests.depth_le sign) ?_ ?_ <;> cases sign <;> decide
  simp only [signNumber]
  split
  · split
    · exact hsigned .minus
    · exact hsigned .plus
  · refine ⟨h.leads.imp ?_, h.nests⟩
    rintro _ ⟨hp⟩
    exact .bare hp

theorem number_endsTerm (hd : draws.Lawful) (h : d.AwaitsNumber n) (s : σ) :
    (d.write (number draws s).1).EndsTerm (n + 1) := by
  obtain ⟨x, hx⟩ := exists_numeral hd s
  refine h.write (h.leads.number h.nests.depth_le hx) ?_ ?_
  all_goals
    intro hmem
    rcases hx.chars _ hmem with hdigit | hpoint
    · exact absurd hdigit (by decide)
    · exact absurd hpoint (by decide)

theorem closeGroup_endsTerm (h : d.EndsTerm n) (index : Nat) (s : σ) :
    (closeGroup draws index d s).1.EndsTerm n := by
  simp only [closeGroup]
  split
  · rename_i start opened hopened
    split
    · split
      · obtain ⟨hleads, hnests⟩ := h
        rw [hopened] at hleads hnests
        refine ⟨?_, ?_⟩
        · show Leads (d.write ")").text (BehindTerm opened.length n)
          rw [Draft.text_write]
          exact hleads.closeGroup
        · show Nests maxDepth opened.length (d.write ")").text
          rw [Draft.text_write]
          exact hnests.closeGroup
      · exact h
    · exact h
  · exact h

/-- **One term**, with its sign and the groups around it. -/
theorem term_endsTerm (hd : draws.Lawful) (h : d.AwaitsTerm n) (index : Nat) (s : σ) :
    (term draws index d s).1.EndsTerm (n + 1) := by
  have hopened := openGroup_awaitsTerm draws h index s
  have hsigned := signNumber_awaitsNumber draws hopened (openGroup draws index d s).2
  exact closeGroup_endsTerm draws (number_endsTerm draws hd hsigned _) index _

theorem joinTerms_awaitsTerm (h : d.EndsTerm n) (s : σ) :
    (joinTerms draws d s).1.AwaitsTerm n := by
  have hjoined : ∀ op : Operator, Draft.AwaitsTerm
      { d.write (" " ++ op.text ++ " ") with afterDivision := op = .div } n := by
    intro op
    refine ⟨?_, ?_⟩
    · show Leads (d.write _).text (BeforeTerm (decide (op = .div)) d.opened.length n)
      rw [Draft.text_write]
      exact h.leads.join op
    · show Nests maxDepth d.opened.length (d.write _).text
      rw [Draft.text_write]
      refine h.nests.append ?_ ?_ <;> cases op <;> decide
  exact hjoined _

/-! ## All terms -/

/-- **The loop**: after any number of terms, all of them have been read. -/
theorem terms_endsTerm (hd : draws.Lawful) (more : Nat) (h : d.AwaitsTerm n) (index : Nat) (s : σ) :
    (terms draws index d s more).1.EndsTerm (n + more + 1) := by
  induction more generalizing d n index s with
  | zero => exact term_endsTerm draws hd h index s
  | succ more ih =>
    have hterm := term_endsTerm draws hd h index s
    have hjoined := joinTerms_awaitsTerm draws hterm (term draws index d s).2
    rw [show n + (more + 1) + 1 = n + 1 + more + 1 by omega]
    exact ih hjoined (index + 1) _

/-- The groups that are still open at the end are closed. -/
theorem closeAll {cs : List Char} {depth : Nat} (hl : Leads cs (BehindTerm depth n))
    (hn : Nests maxDepth depth cs) :
    Leads (cs ++ List.replicate depth ')') (BehindTerm 0 n) ∧
      Nests maxDepth 0 (cs ++ List.replicate depth ')') := by
  induction depth generalizing cs with
  | zero => simpa using ⟨hl, hn⟩
  | succ depth ih =>
    rw [List.replicate_succ, List.append_cons]
    exact ih hl.closeGroup hn.closeGroup

theorem toList_finish (d : Draft) :
    d.finish.toList = d.text ++ List.replicate d.opened.length ')' := by
  have hclose : (List.replicate d.opened.length ")").flatMap String.toList =
      List.replicate d.opened.length ')' := by
    induction d.opened.length with
    | zero => rfl
    | succ k ih => rw [List.replicate_succ, List.flatMap_cons, ih, List.replicate_succ]; rfl
  simp [Draft.finish, Draft.text, hclose]

/-- An expression of any length closes all its groups. -/
theorem expression_leads (hd : draws.Lawful) (more : Nat) (s : σ) :
    Leads (expression draws more s).toList (BehindTerm 0 (more + 1)) ∧
      Nests maxDepth 0 (expression draws more s).toList := by
  obtain ⟨hleads, hnests⟩ := terms_endsTerm draws hd more awaitsTerm_empty 0 s
  rw [expression, toList_finish]
  rw [Nat.zero_add] at hleads
  exact closeAll hleads hnests

end Generator

/-! ## The whole expression -/

/-- What has a tree with a value has that value in eager mode. -/
theorem parseEagerly_of_value {ops : Arithmetic} {s : Source} {e : Expr} {x : Binary64}
    (h : parse s = .ok e) (hx : e.fold (.value ops) = .ok x) :
    parseEagerly ops s = .ok (.literal x) := by
  have hagree := Descent.wholeText_agree ops (.ofSource s)
  rw [parse] at h
  rw [parseEagerly]
  generalize Descent.wholeText .tree (.ofSource s) = r at h hagree
  generalize Descent.wholeText (.eager ops) (.ofSource s) = r' at hagree
  cases hagree with
  | stop => cases h
  | value hy =>
    cases h
    cases hy.symm.trans hx
    rfl
  | undefined hf _ =>
    cases h
    obtain ⟨f, hf, -⟩ := hf
    cases hf.symm.trans hx

/-- **Random expressions are valid**, whatever is drawn: the text is read as a tree, in one piece or
cut into several, with a newline behind it or without. The tree has the numbers that were asked for,
its groups are nested no deeper than the bound, it divides by numbers that are not zero and by
nothing else, and so it has a value in both modes. -/
theorem generateFrom_valid {σ : Type} (draws : Draws σ) (hd : draws.Lawful) (s : σ) (terms : Int)
    (ht : 1 ≤ terms) :
    ∃ text e, generateFrom draws s terms = .ok text ∧ Nests Generator.maxDepth 0 text.toList ∧
      (e.literals.length : Int) = terms ∧ (e.joins : Int) = terms - 1 ∧ e.DividesByNumbers ∧
      ∀ source : Source, source.pieces.flatten = text.toList ∨
          source.pieces.flatten = (text ++ "\n").toList →
        parse source = .ok e ∧
        ∀ ops, ∃ x, e.evaluate ops = .ok x ∧ parseEagerly ops source = .ok (.literal x) := by
  obtain ⟨hleads, hnests⟩ := Generator.expression_leads draws hd (terms - 1).toNat s
  obtain ⟨e, ⟨hsafe, hlength⟩, hparse⟩ := hleads.exists_parse fun _ hp => hp.complete
  have hjoins := Expr.length_literals hsafe.supported
  refine ⟨_, e, ?_, hnests, by omega, by omega, hsafe.divides, ?_⟩
  · rw [generateFrom, if_neg (by omega)]
  intro source hsource
  -- no number goes on with the newline, and the lexer passes it as a blank
  have hok : parse source = .ok e := by
    rcases hsource with hsource | hsource
    · exact hparse source [] (by simpa using hsource) (by simp) ⟨rfl, rfl, rfl⟩
    · exact hparse source ['\n'] (by simpa using hsource)
        (List.forall_mem_singleton.mpr (by decide)) ⟨rfl, rfl, rfl⟩
  refine ⟨hok, ?_⟩
  intro ops
  obtain ⟨x, hx⟩ := hsafe.exists_value ops
  exact ⟨x, by rw [Expr.evaluate_eq_fold, hx], parseEagerly_of_value hok hx⟩

/-- A source that follows a script. -/
def Draws.scripted : Draws (List Nat) where
  chance _ s := (s.head? = some 1, s.tail)
  below n s := (s.headD 0 % n, s.tail)
  amount s := (Draws.leastAmount, s)

theorem Draws.scripted_lawful : Draws.scripted.Lawful where
  below_lt _ := Nat.mod_lt _ (by decide)
  amount_ge _ := Nat.le_refl _
  amount_le _ := show Draws.leastAmount.word ≤ Draws.greatestAmount.word by decide

/-- A sum in a group, divided by a signed number. -/
theorem generateFrom_quotient :
    generateFrom .scripted [1, 0, 1, 0, 0, 0, 0, 1, 1, 1, 3, 1, 0, 0] 3 =
      .ok "(1 + 2) / -0.50" ∧
    ∃ e, parse (.text "(1 + 2) / -0.50\n".toList) = .ok e ∧ e.DividesByNumbers ∧
      ∃ x, parseEagerly .machine (.text "(1 + 2) / -0.50\n".toList) = .ok (.literal x) := by
  have hgenerated : generateFrom .scripted [1, 0, 1, 0, 0, 0, 0, 1, 1, 1, 3, 1, 0, 0] 3 =
      .ok "(1 + 2) / -0.50" := by decide +kernel
  obtain ⟨text, e, htext, -, -, -, hdivides, hsource⟩ :=
    generateFrom_valid _ Draws.scripted_lawful [1, 0, 1, 0, 0, 0, 0, 1, 1, 1, 3, 1, 0, 0] 3
      (by decide)
  cases hgenerated.symm.trans htext
  obtain ⟨hparse, hvalue⟩ := hsource (.text "(1 + 2) / -0.50\n".toList) (.inr (by decide))
  obtain ⟨x, -, hx⟩ := hvalue .machine
  exact ⟨hgenerated, e, hparse, hdivides, x, hx⟩

end Calculator
