import Calculator.Text.Blank
import Calculator.Text.Numeral
import Calculator.Token.Basic
import Calculator.Token.Reader

/-!
# From characters to tokens

The lexer takes one token after the other from a reader, each as long as it can be. It never fails:
a number with an exponent that has no digits is a token like any other, and the end of the text can
be read again and again.
-/

namespace Calculator

namespace Lexer

/-- Whether a name can start with a character. -/
def startsName (c : Char) : Bool := Text.isLetter c || c = '_'

/-- Whether a name can go on with a character. -/
def continuesName (c : Char) : Bool := Text.isAlphanumeric c || c = '_'

/-- An exponent: its mark, a sign if there is one, and digits if there are any. -/
def exponent (r : Reader) : List Char × Reader :=
  let (mark, r) := r.takeIf fun c => c = 'e' || c = 'E'
  if mark.isEmpty then ([], r)
  else
    let (sign, r) := r.takeIf fun c => c = '+' || c = '-'
    let (digits, r) := r.takeWhile Char.isDigit
    (mark ++ sign ++ digits, r)

/-- The point of a number that began with a digit, and the digits after it. -/
def fraction (r : Reader) : List Char × Reader :=
  let (point, r) := r.takeIf fun c => c = '.'
  if point.isEmpty then ([], r)
  else
    let (digits, r) := r.takeWhile Char.isDigit
    (point ++ digits, r)

/-- A number that begins with a digit. It is whole if neither point nor exponent follows. -/
def number (r : Reader) : TokenKind × List Char × Reader :=
  let (digits, r) := r.takeWhile Char.isDigit
  let (fraction, r) := fraction r
  let (exponent, r) := exponent r
  let kind := if fraction.isEmpty && exponent.isEmpty then .whole else .decimal
  (kind, digits ++ fraction ++ exponent, r)

/-- A number whose point was taken and is followed by a digit. -/
def pointNumber (r : Reader) : List Char × Reader :=
  let (digits, r) := r.takeWhile Char.isDigit
  let (exponent, r) := exponent r
  ('.' :: digits ++ exponent, r)

/-- The token that starts with the next character. -/
def tokenHere (r : Reader) : Token × Reader :=
  let pos := r.position
  match r.peek with
  | none => (.finish pos, r.ready)
  | some c =>
    if c.isDigit then
      let (kind, text, r) := number r
      (⟨kind, String.ofList text, pos⟩, r)
    else if c = '.' then
      let (_, r) := r.takeIf fun _ => true
      if r.peek.any Char.isDigit then
        let (text, r) := pointNumber r
        (⟨.decimal, String.ofList text, pos⟩, r)
      else (⟨.symbol, ".", pos⟩, r)
    else if startsName c then
      let (text, r) := r.takeWhile continuesName
      (⟨.name, String.ofList text, pos⟩, r)
    else
      let (_, r) := r.takeIf fun _ => true
      (⟨.symbol, c.toString, pos⟩, r)

/-- The next token: blanks are passed over. -/
def token (r : Reader) : Token × Reader :=
  let (_, r) := r.takeWhile Text.isBlank
  tokenHere r

end Lexer

/-- A reader together with the token that was read last. -/
structure Lexer where
  current : Token
  reader : Reader
deriving Repr

namespace Lexer

/-- A lexer that has read nothing. -/
def ofSource (s : Source) : Lexer := ⟨.finish 0, .ofSource s⟩

/-- Read the next token. -/
def advance (l : Lexer) : Lexer :=
  let (current, reader) := token l.reader
  ⟨current, reader⟩

/-- The tokens before the end of the text, in reverse order on top of `done`, and the offset of the
end. There are at most as many tokens as characters, which the fuel counts. -/
def tokensOnto (done : List Token) (r : Reader) : Nat → List Token × Nat
  | 0 => (done, r.position)
  | fuel + 1 =>
    let (t, r') := token r
    if t.kind = .eof then (done, t.pos) else tokensOnto (t :: done) r' fuel

/-- The tokens of a source before its end, and the offset of the end. -/
def tokens (s : Source) : List Token × Nat :=
  let r := Reader.ofSource s
  let (done, finish) := tokensOnto [] r (r.remaining + 1)
  (done.reverse, finish)

/-- The current token after each of `n` more steps. -/
def following (l : Lexer) : Nat → List Token
  | 0 => []
  | n + 1 =>
    let l := l.advance
    l.current :: following l n

/-- The current tokens of a lexer from its start to the first end of the text and `extra` steps
beyond it. -/
def trace (s : Source) (extra : Nat) : List Token :=
  let l := Lexer.ofSource s
  l.current :: following l ((tokens s).1.length + 1 + extra)

end Lexer

end Calculator
