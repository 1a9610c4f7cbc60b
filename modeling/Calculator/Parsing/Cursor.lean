import Calculator.Token.Lexer

/-!
# A place among the tokens

The descent looks at one token at a time. A cursor holds the tokens that are left, and the offset of
the end of the text, where the end token stands once they are used up.
-/

namespace Calculator

/-- The tokens that are left. -/
structure Cursor where
  rest : List Token
  finish : Nat
deriving DecidableEq, Repr

namespace Cursor

/-- The cursor before the first token of a source. -/
def ofSource (s : Source) : Cursor :=
  let (rest, finish) := Lexer.tokens s
  ⟨rest, finish⟩

/-- The token at the cursor. -/
def current (c : Cursor) : Token :=
  match c.rest with
  | t :: _ => t
  | [] => .finish c.finish

/-- The cursor behind its token; at the end it stays where it is. -/
def advance (c : Cursor) : Cursor := { c with rest := c.rest.tail }

/-- Whether all tokens are used up. -/
def atEnd (c : Cursor) : Bool := c.rest.isEmpty

end Cursor

end Calculator
