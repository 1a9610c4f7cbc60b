import Calculator.Terminal.Cells
import Calculator.Text.Blank
import Calculator.Text.Pieces

/-!
# Layout

What the terminal shows of a text. Control characters that would move the cursor are left out, and a
tab goes on to the next multiple of eight cells. `whole` leaves the lines as long as they are;
`wrapLines` breaks them between words so that they fit into a width. A word that is wider than a
line is either folded over several lines or cut off with an ellipsis.

Stretches of a text may be marked. Each character carries the numbers of the stretches that it
belongs to through the layout, so that the marks can be found again in the lines.
-/

namespace Calculator.Terminal

/-- The width of a terminal of which nothing is known. -/
def standardWidth : Nat := 80

/-- The distance of tab stops. -/
def tabWidth : Nat := 8

/-- A character with the numbers of the marked stretches that it belongs to. -/
structure Ink where
  char : Char
  marks : List Nat
deriving DecidableEq, Repr

/-- A character that belongs to no marked stretch. -/
def Ink.plain (c : Char) : Ink := ⟨c, []⟩

/-- The characters of a text without their marks. -/
def chars (line : List Ink) : List Char := line.map Ink.char

/-- Whether a character is blank. -/
def Ink.isBlank (x : Ink) : Bool := Text.isBlank x.char

/-- Whether a control character would move the cursor: the bell, the backspace, the vertical tab,
the form feed and the carriage return. -/
def movesCursor (c : Char) : Bool := [7, 8, 11, 12, 13].contains c.toNat

/-- A text without the characters that would move the cursor. -/
def withoutControls (cs : List Char) : List Char := cs.filter fun c => !movesCursor c

/-- A line with the spaces that lead to the next stop in place of each tab, where the line is
`column` cells long up to its last tab and `piece` is what stands behind that tab. -/
def tabbed (column : Nat) (piece : List Ink) : List Ink → List Ink
  | [] => piece
  | x :: line =>
    if x.char = '\t' then
      let reached := column + cells (chars piece ++ [' '])
      let stop := (reached + tabWidth - 1) / tabWidth * tabWidth
      piece ++ List.replicate (stop - reached + 1) { x with char := ' ' } ++ tabbed stop [] line
    else tabbed column (piece ++ [x]) line

/-- A line with spaces in place of tabs. -/
def withoutTabs (line : List Ink) : List Ink := tabbed 0 [] line

/-- The lines of a text, as the terminal shows them. -/
def shownLines (text : List Ink) : List (List Ink) :=
  (Text.piecesBy (fun x => x.char = '\n') text).map withoutTabs

/-- Lines as one text, with a line end between any two. -/
def joinLines (lines : List (List Char)) : String :=
  String.intercalate "\n" (lines.map String.ofList)

/-- What the terminal shows of a text whose lines may be longer than it is wide. -/
def whole (s : String) : String :=
  joinLines ((shownLines ((withoutControls s.toList).map Ink.plain)).map chars)

/-! ## Breaking lines -/

/-- The words of a line, each with the blanks behind it; the first also has the blanks in front. A
blank line has no words. -/
def words {α : Type} (isBlank : α → Bool) (line : List α) : List (List α) :=
  match line.splitBy fun a b => !isBlank a || isBlank b with
  | first :: second :: more =>
    if first.all isBlank then (first ++ second) :: more else first :: second :: more
  | [only] => if only.all isBlank then [] else [only]
  | [] => []

/-- What becomes of a word that is wider than a line. -/
inductive Overflow where
  | fold
  | ellipsis
deriving DecidableEq, Repr

/-- A word that is wider than a line, as the lines that it takes. -/
def Overflow.linesOf (o : Overflow) (width : Nat) (word : List Ink) : List (List Ink) :=
  match o with
  | .fold => Text.piecesOf ((chop width (chars word)).map List.length) word
  | .ellipsis => [word]

/-- Words in lines, where `line` is the open line and `used` its cells. A word goes on the open line
if it fits there without the blanks behind it, else on a line of its own. -/
def fill (o : Overflow) (width : Nat) (line : List Ink) (used : Nat) :
    List (List Ink) → List (List Ink)
  | [] => [line]
  | word :: more =>
    let size := cells (Text.trimEnd Text.isBlank (chars word))
    if used + size ≤ width then fill o width (line ++ word) (used + cells (chars word)) more
    else
      let finished := if line.isEmpty then [] else [line]
      let taken := if width < size then o.linesOf width word else [word]
      let last := taken.getLastD []
      finished ++ taken.dropLast ++ fill o width last (cells (chars last)) more

/-- The number of blanks at the end of a line. -/
def trailingBlanks (line : List Ink) : Nat := (line.reverse.takeWhile Ink.isBlank).length

/-- A line without those blanks at its end that stand behind the `width` first characters. -/
def dropExcess (width : Nat) (line : List Ink) : List Ink :=
  line.take (line.length - min (trailingBlanks line) (line.length - width))

/-- A line cut to the width, if it is wider. What stands in place of a character takes its marks. -/
def Overflow.cut (o : Overflow) (width : Nat) (line : List Ink) : List Ink :=
  if cells (chars line) ≤ width then line
  else
    let kept :=
      match o with
      | .fold => crop width (chars line)
      | .ellipsis => crop (width - 1) (chars line) ++ ['…']
    List.zipWith (fun c x => { x with char := c }) kept line

/-- A line, broken into lines that fit into a width. -/
def wrapLine (o : Overflow) (width : Nat) (line : List Ink) : List (List Ink) :=
  let lines :=
    match words Ink.isBlank line with
    | [] => [line]
    | ws => fill o width [] 0 ws
  lines.map fun l => o.cut width (dropExcess width l)

/-- The lines of a text, broken so that they fit into a width. -/
def wrapLines (o : Overflow) (width : Nat) (text : List Ink) : List (List Ink) :=
  (shownLines text).flatMap (wrapLine o width)

end Calculator.Terminal
