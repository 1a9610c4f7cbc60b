import Calculator.Expr.Basic
import Calculator.Text.Quoted

/-!
# Tokens

A token is a piece of the text with its offset, counted in code points. Names and numbers are kept
as they are written; every other character that is not blank is a symbol of its own. The end of the
text counts as a token with empty text.
-/

namespace Calculator

/-- What a token is. -/
inductive TokenKind where
  | eof
  | name
  | whole
  | decimal
  | symbol
deriving DecidableEq, Repr

/-- The word for a kind of token. -/
def TokenKind.text : TokenKind → String
  | eof => "eof"
  | name => "ident"
  | whole => "int"
  | decimal => "float"
  | symbol => "symbol"

/-- A piece of the text and the offset at which it starts. -/
structure Token where
  kind : TokenKind
  text : String
  pos : Nat
deriving DecidableEq, Repr

namespace Token

/-- The end of a text of the given length. -/
def finish (pos : Nat) : Token := ⟨.eof, "", pos⟩

/-- Whether a token is a number. -/
def isNumber (t : Token) : Bool := t.kind = .whole || t.kind = .decimal

/-- Whether a token is the given symbol. -/
def isSymbol (t : Token) (s : String) : Bool := t.kind = .symbol && t.text = s

/-- The sign that a token writes. -/
def sign? (t : Token) : Option Sign :=
  if t.kind = .symbol then Sign.ofText? t.text else none

/-- The operator that a token writes. -/
def operator? (t : Token) : Option Operator :=
  if t.kind = .symbol then Operator.ofText? t.text else none

/-- How strongly a token binds as an operator, zero if it is none. -/
def priority (t : Token) : Nat :=
  match t.operator? with
  | some op => op.priority
  | none => 0

/-- A token as messages name it. -/
def describe (t : Token) : String :=
  match t.kind with
  | .eof => "end of file"
  | .name => "identifier " ++ t.text
  | .whole => "number " ++ t.text
  | .decimal => "number " ++ t.text
  | .symbol => Text.quoted t.text

/-- A token with its kind, text and offset. -/
def display (t : Token) : String :=
  "Token(" ++ t.kind.text ++ ", " ++ Text.quoted t.text ++ ", pos=" ++ toString t.pos ++ ")"

end Token

end Calculator
