import Calculator.Text.Hexadecimal
import Calculator.Text.Printable

/-!
# Quoted text

Messages show a piece of foreign text between quotes. The quote is an apostrophe, unless the text
holds an apostrophe and no double quote. Inside, the quote itself and the backslash are escaped, and
a character that cannot be shown is written by its short name or by its code point in hexadecimal,
with as many digits as its size asks for: two, four or eight.
-/

namespace Calculator.Text

/-- The apostrophe. -/
def apostrophe : Char := '\x27'

/-- The quote that surrounds a text. -/
def quoteFor (s : List Char) : Char :=
  if s.contains apostrophe && !s.contains '"' then '"' else apostrophe

/-- One character of a text that stands between the quotes `q`. -/
def escapeChar (q c : Char) : List Char :=
  if c = q || c = '\\' then ['\\', c]
  else if c = '\n' then ['\\', 'n']
  else if c = '\r' then ['\\', 'r']
  else if c = '\t' then ['\\', 't']
  else if isPrintable c then [c]
  else if c.toNat < 0x100 then '\\' :: 'x' :: hexDigits 2 c.toNat
  else if c.toNat < 0x10000 then '\\' :: 'u' :: hexDigits 4 c.toNat
  else '\\' :: 'U' :: hexDigits 8 c.toNat

/-- A text between quotes, as messages show it. -/
def quoted (s : String) : String :=
  let q := quoteFor s.toList
  String.ofList (q :: s.toList.flatMap (escapeChar q) ++ [q])

end Calculator.Text
