/-!
# Decoding UTF-8 in pieces

The decoder is a machine that takes one byte at a time, so a sequence may be cut anywhere and the
rest may arrive later. What it delivers is a list of items: a character for each well-formed
sequence, and a gap for each longest beginning of a sequence that no continuation completes. A
reader that repairs its input writes the replacement character for every gap; a strict reader
refuses a text with gaps.
-/

namespace Calculator.Text.Utf8

/-- What the decoder remembers between two bytes. In the middle of a sequence these are the value
gathered so far, the number of bytes still missing, and the bounds of the next one; the bounds
exclude overlong forms, surrogates and values beyond the last code point. -/
inductive State where
  | start
  | within (value missing low high : Nat)
deriving DecidableEq, Repr

/-- One item of decoded text: a character, or a gap where the bytes are ill-formed. -/
abbrev Item := Option Char

/-- The first byte of a sequence. -/
def lead (b : Nat) : List Item × State :=
  if b < 0x80 then ([some (Char.ofNat b)], .start)
  else if b < 0xC2 then ([none], .start)
  else if b < 0xE0 then ([], .within (b - 0xC0) 1 0x80 0xBF)
  else if b = 0xE0 then ([], .within 0 2 0xA0 0xBF)
  else if b = 0xED then ([], .within 0xD 2 0x80 0x9F)
  else if b < 0xF0 then ([], .within (b - 0xE0) 2 0x80 0xBF)
  else if b = 0xF0 then ([], .within 0 3 0x90 0xBF)
  else if b < 0xF4 then ([], .within (b - 0xF0) 3 0x80 0xBF)
  else if b = 0xF4 then ([], .within 4 3 0x80 0x8F)
  else ([none], .start)

/-- One byte. A byte outside the bounds ends the sequence before it with a gap and starts anew. -/
def step (s : State) (byte : UInt8) : List Item × State :=
  let b := byte.toNat
  match s with
  | .start => lead b
  | .within value missing low high =>
    if low ≤ b ∧ b ≤ high then
      let value := value * 64 + (b - 0x80)
      if missing ≤ 1 then ([some (Char.ofNat value)], .start)
      else ([], .within value (missing - 1) 0x80 0xBF)
    else
      let (items, s') := lead b
      (none :: items, s')

/-- The end of the bytes: a sequence that is not complete is a gap. -/
def flush : State → List Item
  | .start => []
  | .within .. => [none]

/-- The items of a piece of bytes and the state after it, the items in reverse order on top of
those already gathered. -/
def runOnto (items : List Item) (s : State) : List UInt8 → List Item × State
  | [] => (items, s)
  | b :: bs =>
    let (more, s') := step s b
    runOnto (more.reverse ++ items) s' bs

/-- The items of a piece of bytes and the state after it. -/
def run (s : State) (bytes : List UInt8) : List Item × State :=
  let (items, s') := runOnto [] s bytes
  (items.reverse, s')

/-- The items of a whole text. -/
def items (bytes : List UInt8) : List Item :=
  let (before, s) := run .start bytes
  before ++ flush s

/-- The character that stands for a gap. -/
def replacement : Char := '\uFFFD'

/-- A text with every gap filled by the replacement character. -/
def repair (is : List Item) : List Char :=
  is.map fun i => i.getD replacement

/-- Decode a whole text, filling gaps. -/
def decodeRepairing (bytes : List UInt8) : List Char :=
  repair (items bytes)

/-- Decode a whole text that must be well-formed. -/
def decode? (bytes : List UInt8) : Option (List Char) :=
  (items bytes).mapM id

end Calculator.Text.Utf8
