import Calculator.Proofs.Parentheses

/-!
# A tree is its tokens in their order

Parentheses leave no node, and everything else in a text leaves exactly one: read in order, a sign
before its operand and an operator between its operands, the nodes of a tree are the tokens of the
text from which it was parsed, without the parentheses. `Derives.inorder` has this of the grammar, so
it holds of any way of parsing that follows the grammar.
-/

namespace Calculator

/-- What one node of a tree adds to its text. -/
inductive Atom where
  /-- A number. -/
  | number (x : Binary64)
  /-- A sign or an operator, as it is written. -/
  | mark (text : String)
deriving DecidableEq, Repr

/-- The nodes of a tree in order, as they stand in a text. -/
def Expr.inorder : Expr → List Atom
  | literal x => [.number x]
  | unary (.known sign) e => .mark sign.text :: e.inorder
  | unary (.other stray) e => .mark stray :: e.inorder
  | binary (.known op) l r => l.inorder ++ .mark op.text :: r.inorder
  | binary (.other stray) l r => l.inorder ++ .mark stray :: r.inorder
  | foreign _ => []

namespace Token

/-- Whether a token opens or closes a group. -/
def isParenthesis (t : Token) : Bool := t.isSymbol "(" || t.isSymbol ")"

/-- What a token adds to a tree: the number that it converts to, or the symbol that it is. A number
without a value, a name and the end of a text add nothing. -/
def atom? (t : Token) : Option Atom :=
  match t.kind with
  | .whole | .decimal => (Descent.numberValue t.text).toOption.map .number
  | .symbol => some (.mark t.text)
  | .name | .eof => none

variable {t : Token}

theorem isParenthesis_of_isNumber (h : t.isNumber = true) : t.isParenthesis = false := by
  rw [isParenthesis, isSymbol_of_isNumber h, isSymbol_of_isNumber h, Bool.or_self]

theorem isParenthesis_of_isSymbol {s : String} (h : t.isSymbol s = true) (ho : s ≠ "(")
    (hc : s ≠ ")") : t.isParenthesis = false := by
  rw [isParenthesis, isSymbol_of_ne h ho, isSymbol_of_ne h hc, Bool.or_self]

theorem atom?_of_isNumber {x : Binary64} (h : t.isNumber = true)
    (hx : Descent.numberValue t.text = .ok x) : t.atom? = some (.number x) := by
  simp only [isNumber, Bool.or_eq_true, decide_eq_true_eq] at h
  rcases h with h | h
  · rw [atom?, h, hx]
    rfl
  · rw [atom?, h, hx]
    rfl

theorem atom?_of_isSymbol {s : String} (h : t.isSymbol s = true) : t.atom? = some (.mark s) := by
  rw [atom?, kind_of_isSymbol h, text_of_isSymbol h]

end Token

/-! ## Derivations -/

/-- What tokens other than parentheses add to a tree, in their order. -/
def atoms (ts : List Token) : List (Option Atom) := (ts.filter (!·.isParenthesis)).map Token.atom?

section Atoms

variable {t u : Token} {ts us : List Token}

@[simp] theorem atoms_append : atoms (ts ++ us) = atoms ts ++ atoms us := by
  rw [atoms, List.filter_append, List.map_append, atoms, atoms]

theorem atoms_cons (h : t.isParenthesis = false) : atoms (t :: ts) = t.atom? :: atoms ts := by
  rw [atoms, List.filter_cons_of_pos (by rw [h]; rfl), List.map_cons, atoms]

theorem atoms_group (ht : t.isSymbol "(" = true) (hu : u.isSymbol ")" = true) :
    atoms (t :: ts ++ [u]) = atoms ts := by
  have hopen : t.isParenthesis = true := by rw [Token.isParenthesis, ht, Bool.true_or]
  have hclose : u.isParenthesis = true := by rw [Token.isParenthesis, hu, Bool.or_true]
  simp [atoms, hopen, hclose]

end Atoms

/-- An operator between its operands. -/
theorem inorder_join {ts us : List Token} {t : Token} {op : Operator} {l r : Expr}
    (hl : atoms ts = l.inorder.map some) (ht : t.isSymbol op.text = true)
    (hr : atoms us = r.inorder.map some) :
    atoms (ts ++ t :: us) = (Expr.binary (.known op) l r).inorder.map some := by
  have hmark := Token.isParenthesis_of_isSymbol ht op.text_ne.1 op.text_ne.2
  rw [atoms_append, atoms_cons hmark, Token.atom?_of_isSymbol ht, hl, hr, Expr.inorder,
    List.map_append, List.map_cons]

/-- What is derived has the atoms of its tokens, in their order. -/
theorem Derives.inorder {rule : Rule} {ts : List Token} {e : Expr} (h : Derives rule ts e) :
    atoms ts = e.inorder.map some := by
  induction h with
  | number ht hx =>
    rw [atoms_cons (Token.isParenthesis_of_isNumber ht), Token.atom?_of_isNumber ht hx]
    rfl
  | group ht _ hu ih => rw [atoms_group ht hu, ih]
  | operand _ ih => exact ih
  | @signed ts t sign e ht _ ih =>
    have hmark := Token.isParenthesis_of_isSymbol ht sign.text_ne.1 sign.text_ne.2
    rw [atoms_cons hmark, Token.atom?_of_isSymbol ht, ih]
    rfl
  | factor _ ih => exact ih
  | product _ _ ht _ ihl ihr => exact inorder_join ihl ht ihr
  | term _ ih => exact ih
  | sum _ _ ht _ ihl ihr => exact inorder_join ihl ht ihr

/-- What is derived closes as many groups as it opens. -/
theorem Derives.balanced {rule : Rule} {ts : List Token} {e : Expr} (h : Derives rule ts e) :
    ts.countP (·.isSymbol "(") = ts.countP (·.isSymbol ")") := by
  induction h with
  | number ht _ => simp [Token.isSymbol_of_isNumber ht]
  | group ht _ hu ih =>
    simp [ht, hu, Token.isSymbol_of_ne ht (show "(" ≠ ")" by decide),
      Token.isSymbol_of_ne hu (show ")" ≠ "(" by decide), ih]
  | operand _ ih => exact ih
  | @signed ts t sign e ht _ ih =>
    simp [Token.isSymbol_of_ne ht sign.text_ne.1, Token.isSymbol_of_ne ht sign.text_ne.2, ih]
  | factor _ ih => exact ih
  | @product ts us t op l r _ _ ht _ ihl ihr =>
    simp [Token.isSymbol_of_ne ht op.text_ne.1, Token.isSymbol_of_ne ht op.text_ne.2, ihl, ihr]
  | term _ ih => exact ih
  | @sum ts us t op l r _ _ ht _ ihl ihr =>
    simp [Token.isSymbol_of_ne ht op.text_ne.1, Token.isSymbol_of_ne ht op.text_ne.2, ihl, ihr]

/-! ## Sizes -/

/-- The size of a tree counts its nodes in order. -/
theorem Expr.fold_count {e : Expr} (h : e.Supported) : e.fold .count = .ok e.inorder.length := by
  induction e with
  | literal x => rfl
  | unary m e ih =>
    cases m with
    | known sign =>
      rw [fold, ih h]
      rfl
    | other text => exact h.elim
  | binary m l r ihl ihr =>
    cases m with
    | known op =>
      rw [fold, ihl h.1, ihr h.2, inorder, List.length_append, List.length_cons]
      rfl
    | other text => exact h.elim
  | foreign kind => exact h.elim

theorem Expr.size_eq {e : Expr} (h : e.Supported) : e.size = .ok e.inorder.length := by
  rw [size, walk_eq_fold, fold_count h]

/-- Every token but a parenthesis adds one atom. -/
theorem length_atoms (ts : List Token) : (atoms ts).length = ts.countP (!·.isParenthesis) := by
  rw [atoms, List.length_map, List.countP_eq_length_filter]

/-- **No token is lost, doubled or moved.** The nodes of a tree that was parsed, in order, are the
tokens of its text that are no parentheses, each number token as the number that it converts to. So
the size of the tree is the number of these tokens; and the text has as many opening parentheses as
closing ones. -/
theorem inorder_of_parse (s : Source) (e : Expr) (h : parse s = .ok e) :
    ∃ ts finish, Lexer.Reads s ts finish ∧
      (ts.filter (!·.isParenthesis)).map Token.atom? = e.inorder.map some ∧
      e.size = .ok (ts.countP (!·.isParenthesis)) ∧
      s.pieces.flatten.count '(' = s.pieces.flatten.count ')' := by
  have hd := spells_iff.mp (spells_of_parse h)
  have horder := hd.inorder
  refine ⟨_, _, Lexer.reads_tokens s, horder, ?_, ?_⟩
  · have hlength := congrArg List.length horder
    rw [length_atoms, List.length_map] at hlength
    rw [hlength, Expr.size_eq hd.supported.1]
  · rw [← count_tokens (by decide), ← count_tokens (by decide)]
    exact hd.balanced

/-- `2-((-3)*4)` is a difference of six nodes: the three numbers, and the signs and operators
between them. -/
theorem inorder_of_parse_difference :
    ∃ ts finish, Lexer.Reads (.text "2-((-3)*4)".toList) ts finish ∧
      (ts.filter (!·.isParenthesis)).map Token.atom? =
        [some (.number ⟨0x4000000000000000⟩), some (.mark "-"), some (.mark "-"),
          some (.number ⟨0x4008000000000000⟩), some (.mark "*"),
          some (.number ⟨0x4010000000000000⟩)] ∧
      ts.countP (!·.isParenthesis) = 6 := by
  obtain ⟨ts, finish, hreads, horder, -, -⟩ := inorder_of_parse (.text "2-((-3)*4)".toList)
    (.binary (.known .sub) (.literal ⟨0x4000000000000000⟩)
      (.binary (.known .mul) (.unary (.known .minus) (.literal ⟨0x4008000000000000⟩))
        (.literal ⟨0x4010000000000000⟩))) (by decide +kernel)
  refine ⟨ts, finish, hreads, horder, ?_⟩
  rw [← length_atoms, atoms, horder]
  rfl

end Calculator
