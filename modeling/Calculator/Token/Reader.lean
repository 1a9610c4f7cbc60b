import Calculator.Text.Utf8

/-!
# Reading in pieces

The text of an expression may be at hand as a whole or arrive in pieces, of characters or of bytes
in UTF-8. An empty piece ends the text, whatever would come after it. Bytes are decoded piece by
piece, and a sequence that a piece leaves open goes on in the next one.

A reader holds the characters at hand, the offset of the next one, and the pieces that are still to
come; it turns to the next piece only when it has no character left. `Reader.toList` is the view:
the characters that a reader has yet to give, however they are cut.
-/

namespace Calculator

/-- The text of an expression, whole or in pieces. -/
inductive Source where
  | text (chars : List Char)
  | textPieces (pieces : List (List Char))
  | bytePieces (pieces : List (List UInt8))
deriving Repr

namespace Source

/-- The pieces before the first empty one. -/
def beforeEmpty {α : Type} (pieces : List (List α)) : List (List α) :=
  pieces.takeWhile fun piece => !piece.isEmpty

/-- Byte pieces as pieces of characters, from a state of the decoder. What the end leaves open is a
last piece of its own; a piece that only opens or continues a sequence gives no character. -/
def decodePieces (state : Text.Utf8.State) : List (List UInt8) → List (List Char)
  | [] => [Text.Utf8.repair (Text.Utf8.flush state)]
  | piece :: pieces =>
    let (items, state') := Text.Utf8.run state piece
    Text.Utf8.repair items :: decodePieces state' pieces

/-- The characters of a source, piece by piece. -/
def pieces : Source → List (List Char)
  | text chars => [chars]
  | textPieces pieces => beforeEmpty pieces
  | bytePieces pieces => decodePieces .start (beforeEmpty pieces)

end Source

/-- A text that is read from the front. -/
structure Reader where
  /-- Characters at hand. -/
  buffer : List Char
  /-- The offset of the next character. -/
  position : Nat
  /-- The pieces that are still to come. -/
  pieces : List (List Char)
deriving DecidableEq, Repr

namespace Reader

/-- A reader at the beginning of a source. -/
def ofSource (s : Source) : Reader := ⟨[], 0, s.pieces⟩

/-- All characters that a reader has yet to give. -/
def toList (r : Reader) : List Char := r.buffer ++ r.pieces.flatten

/-- The number of characters that a reader has yet to give. -/
def remaining (r : Reader) : Nat := r.toList.length

/-- The first piece that has characters, and the pieces after it. -/
def refill : List (List Char) → List Char × List (List Char)
  | [] => ([], [])
  | [] :: pieces => refill pieces
  | piece :: pieces => (piece, pieces)

/-- The reader with a character at hand, unless the text has ended. -/
def ready (r : Reader) : Reader :=
  match r.buffer with
  | [] =>
    let (buffer, pieces) := refill r.pieces
    { r with buffer, pieces }
  | _ => r

/-- The next character, without taking it. -/
def peek (r : Reader) : Option Char := r.ready.buffer.head?

/-- Take the next character if it has the given property. -/
def takeIf (p : Char → Bool) (r : Reader) : List Char × Reader :=
  let r := r.ready
  match r.buffer with
  | c :: cs => if p c then ([c], { r with buffer := cs, position := r.position + 1 }) else ([], r)
  | [] => ([], r)

/-- Take characters as long as they have the given property, on top of those taken before, which
are in reverse order. -/
def takeWhileOnto (p : Char → Bool) (taken : List Char) (position : Nat) (buffer : List Char) :
    List (List Char) → List Char × Reader
  | [] =>
    let (first, rest) := buffer.span p
    (first.reverse ++ taken, ⟨rest, position + first.length, []⟩)
  | piece :: pieces =>
    let (first, rest) := buffer.span p
    let taken := first.reverse ++ taken
    let position := position + first.length
    match rest with
    | [] => takeWhileOnto p taken position piece pieces
    | rest => (taken, ⟨rest, position, piece :: pieces⟩)

/-- Take characters as long as they have the given property. -/
def takeWhile (p : Char → Bool) (r : Reader) : List Char × Reader :=
  let (taken, r) := takeWhileOnto p [] r.position r.buffer r.pieces
  (taken.reverse, r)

end Reader

end Calculator
