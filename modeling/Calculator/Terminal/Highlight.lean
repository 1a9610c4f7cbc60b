import Calculator.Text.Numeral
import Calculator.Text.Pattern

/-!
# Highlights

In a text that is printed, what looks like a value is highlighted: numbers, addresses, paths, texts
in quotes, brackets and the like. Without colors nothing of this is seen, but a highlighted stretch
is a segment of its own.
-/

namespace Calculator.Terminal

open Text (Pattern)
open Text.Pattern

namespace Highlight

/-- Whether a character belongs to a word. -/
def inWord (c : Char) : Bool := Text.isAlphanumeric c || c = '_'

/-- A character of a word, or one of some others. -/
def wordOr (s : String) : Pattern := one fun c => inWord c || s.toList.contains c

/-- A digit. -/
def digit : Pattern := one Char.isDigit

/-- A decimal digit of any script. -/
def anyDigit : Pattern := one fun c => (Text.decimalValue? c).isSome

/-- A hexadecimal digit. -/
def hexDigit : Pattern := oneOf "0123456789abcdefABCDEF"

/-- Any character but a line end. -/
def inLine : Pattern := one fun c => c ≠ '\n'

/-- The beginning or the end of a word. -/
def edge : Pattern := between fun a b => a.any inWord ≠ b.any inWord

/-- Neither the beginning nor the end of a word. -/
def noEdge : Pattern := between fun a b => a.any inWord = b.any inWord

/-- A place behind no character that passes a test. -/
def notBehind (test : Char → Bool) : Pattern := between fun a _ => !a.any test

/-- The same pattern, `n` times with a mark behind it and once without. -/
def divided (n : Nat) (mark : String) (p : Pattern) : Pattern := exactly n (p ++ word mark) ++ p

/-- Something in angle brackets, with a name at its beginning. -/
def tag : Pattern :=
  noted (word "<") ++ noted (zeroOrMore (wordOr "-.:|")) ++
    noted (zeroOrMore (one fun _ => true)) ++ noted (word ">")

/-- A name with an equals sign and a value behind it. -/
def assignment : Pattern :=
  noted (times 1 50 (wordOr "")) ++ word "=" ++
    optional (noted (optional (word "\"") ++ oneOrMore (wordOr "") ++ optional (word "\"")))

/-- A bracket. -/
def bracket : Pattern := noted (oneOf "][\x7b\x7d()")

/-- An address of four numbers, or of up to eight in hexadecimal. -/
def address : Pattern :=
  noted (divided 3 "." (times 1 3 digit)) <|>
    noted (times 1 7 (times 1 4 hexDigit ++ word ":" ++ optional (word ":")) ++ times 1 4 hexDigit)

/-- The number of a device in pairs of digits, of which all but one have a mark behind them, or in
groups of four digits. -/
def device (pairs groups : Nat) : Pattern :=
  noted (divided pairs "-" (times 1 2 hexDigit) <|> divided pairs ":" (times 1 2 hexDigit) <|>
    divided groups "." (exactly 4 hexDigit))

/-- A universal identifier. -/
def identifier : Pattern :=
  noted (exactly 8 hexDigit ++ word "-" ++ divided 2 "-" (exactly 4 hexDigit) ++ word "-" ++
    exactly 12 hexDigit)

/-- The name in front of an opening parenthesis. -/
def call : Pattern := noted (repeated 0 none false (wordOr ".")) ++ word "("

/-- One of the words that are values. -/
def constant : Pattern :=
  edge ++ noted (word "True") ++ edge <|> edge ++ noted (word "False") ++ edge <|>
    edge ++ noted (word "None") ++ edge

/-- Digits with or without a point. -/
def digits : Pattern := oneOrMore digit ++ optional (word ".") ++ zeroOrMore digit

/-- An exponent, which is as short as can be if it is reluctant. -/
def exponent (eager : Bool) : Pattern :=
  optional (word "e" ++ optional (oneOf "-+") ++ repeated 1 none eager anyDigit)

/-- A number with an imaginary part. -/
def complex : Pattern :=
  noted (notBehind inWord ++ optional (word "-") ++ digits ++ exponent false ++
    optional (oneOf "-+" ++ digits ++ exponent true) ++ word "j")

/-- A number. -/
def number : Pattern :=
  noted (notBehind inWord ++ optional (word "-") ++ digits ++ exponent false ++ edge <|>
    word "0x" ++ zeroOrMore hexDigit)

/-- A path that ends with a slash, and the name behind it. -/
def path : Pattern :=
  noted (noEdge ++ zeroOrMore (word "/" ++ oneOrMore (wordOr "-.+")) ++ word "/") ++
    optional (noted (zeroOrMore (wordOr "-.+")))

/-- A text between quotes, of which the closing one is not behind a backslash. -/
def quotedBy (quotes : String) : Pattern :=
  optional (word "b") ++ word quotes ++ repeated 0 none false inLine ++ notBehind (· = '\\') ++
    word quotes

/-- A text in quotes. -/
def quotation : Pattern :=
  notBehind (fun c => c = '\\' || inWord c) ++
    noted (quotedBy "'''" <|> quotedBy "'" <|> quotedBy "\"\"\"" <|> quotedBy "\"")

/-- The address of a document. -/
def link : Pattern :=
  noted ((word "file" <|> word "https" <|> word "http" <|> word "ws" <|> word "wss") ++
    word "://" ++ zeroOrMore (one fun c => c.isAlphanum || "-$_+!`(),.?/;:&=%#~".toList.contains c))

/-- All values but those with patterns of their own. -/
def value : Pattern :=
  address <|> device 7 3 <|> device 5 2 <|> identifier <|> call <|> constant <|>
    noted (word "...") <|> complex <|> number <|> path <|> quotation <|> link

end Highlight

/-- The first and the last place of each stretch of a text that is highlighted. -/
def highlights (cs : List Char) : List (Nat × Nat) :=
  ([Highlight.tag, Highlight.assignment, Highlight.bracket, Highlight.value].flatMap
    fun p => p.notes cs).filter fun (start, stop) => decide (start < stop)

end Calculator.Terminal
