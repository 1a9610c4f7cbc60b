import Calculator.Terminal.Rendering

/-!
# Tables

A table is shown in columns. Its cells are marked-up texts. A column is as wide as the widest of its
texts; if the table does not fit into the terminal then the first column gives way, and its cells
are broken over several lines of the table. What is wider than the column even so ends with an
ellipsis.

The cells of a line are what stands between its bars. A bar inside a text is no different from those
between the columns: it divides the text into two cells.
-/

namespace Calculator.Terminal

/-- Whether a character ends a line: the line feed, the information separators but the last, the
next line, and the separators of lines and paragraphs. -/
def endsLine (c : Char) : Bool := [10, 28, 29, 30, 133, 8232, 8233].contains c.toNat

/-- The cells of the widest line of a text. -/
def widest (cs : List Char) : Nat :=
  ((cs.splitBy fun a b => !(endsLine a || endsLine b)).map cells).foldl max 0

/-- The cells of a table that are not part of a column: the lines between and around the columns,
and a space on both sides of each. -/
def frameCells (columns : Nat) : Nat := 3 * columns + 1

/-- The widths of the columns of a table, of which the first gives way. -/
def columnWidths (width : Nat) (rows : List (List (List Char))) : List Nat :=
  let columns := (rows.map List.length).foldl max 0
  let natural := (List.range columns).map fun i =>
    max 1 ((rows.map fun row => widest (row.getD i [])).foldl max 0)
  let excess := natural.foldl (· + ·) 0 + frameCells columns - width
  match natural with
  | [] => []
  | first :: more => max 1 (first - excess) :: more

/-- The bar between two cells. -/
def bar : Char := '│'

/-- The lines that a row takes, each with its cells. -/
def rowLines (widths : List Nat) (row : List Marked) : Except MarkupError (List (List String)) := do
  let columns ← (widths.zip row).mapM fun (width, text) => text.lines .ellipsis width
  let height := (columns.map List.length).foldl max 0
  return (List.range height).map fun i =>
    (columns.flatMap fun lines => Text.piecesAt bar (lines.getD i [])).map fun cell =>
      String.ofList (Text.trim Text.isBlank cell)

/-- The lines of a table under its headings. -/
def gridLines (width : Nat) (headings : List String) (rows : List (List String)) :
    Except MarkupError (List (List String)) := do
  let texts ← rows.mapM fun row => row.mapM marked
  let widths :=
    columnWidths width (headings.map String.toList :: texts.map fun row => row.map Marked.chars)
  return (← texts.mapM (rowLines widths)).flatten

end Calculator.Terminal
