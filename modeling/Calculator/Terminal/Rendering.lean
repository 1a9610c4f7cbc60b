import Calculator.Terminal.Highlight
import Calculator.Terminal.Markup

/-!
# Rendering

Marked text on the terminal. The lines of the text are laid out as if it had no marks. Then each
line is cut at the ends of its marked stretches, and the segments are measured one by one: where a
joiner stands at the end of a segment it draws nothing in, so a line that seemed to fit may be too
wide and is cropped.

A text that stays in one piece keeps its empty stretches; one that is divided loses them. A style
that is kept must not have a color with an empty share.
-/

namespace Calculator.Terminal

/-- Whether a stretch marks a position. In a text in one piece an empty stretch parts what is in
front of it from all that is behind it. -/
def Stretch.covers (divided : Bool) (s : Stretch) (position : Nat) : Bool :=
  decide (s.start ≤ position) &&
    (decide (position < s.stop) || (!divided && decide (s.start = s.stop)))

/-- The segments of a line. -/
def segments (line : List Ink) : List (List Char) :=
  (line.splitBy fun a b => a.marks = b.marks).map chars

/-- Segments cropped to a width. -/
def cropSegments (width : Nat) : List (List Char) → List Char
  | [] => []
  | segment :: more =>
    if cells segment < width then segment ++ cropSegments (width - cells segment) more
    else crop width segment

/-- A line cropped to a width, if its segments are wider. -/
def cropLine (width : Nat) (line : List Ink) : List Char :=
  let parts := segments line
  if (parts.map cells).foldl (· + ·) 0 ≤ width then chars line else cropSegments width parts

namespace Marked

/-- A text in which also the values are marked. Segments take more cells than their line only if a
joiner stands between them, so a text without joiners is left as it is. -/
def highlighted (m : Marked) : Marked :=
  if m.chars.contains joiner then
    let values := (highlights m.chars).map fun (start, stop) => ⟨start, stop, []⟩
    { m with stretches := m.stretches ++ values }
  else m

/-- The characters of a text with their marks. -/
def inks (divided : Bool) (m : Marked) : List Ink :=
  m.chars.zipIdx.map fun (c, position) =>
    ⟨c, (List.range m.stretches.length).filter fun k =>
      (m.stretches[k]?).any fun s => s.covers divided position⟩

/-- Whether a text is divided into lines or at tabs. -/
def isDivided (o : Overflow) (width : Nat) (m : Marked) : Bool :=
  m.chars.contains '\t' || decide ((wrapLines o width (m.chars.map Ink.plain)).length ≠ 1)

/-- The stretches of a text that its lines keep. Of a line in one piece that is cut, those are left
that start in front of the cut. -/
def kept (divided : Bool) (lines : List (List Ink)) (m : Marked) : List Stretch :=
  if divided then
    let marks := lines.flatten.flatMap Ink.marks
    (m.stretches.zipIdx.filter fun (_, k) => marks.contains k).map Prod.fst
  else
    let size := lines.flatten.length
    m.stretches.filter fun s => decide (size = m.chars.length) || decide (s.start < size)

/-- The lines of a text, broken so that they fit into a width. -/
def lines (o : Overflow) (width : Nat) (m : Marked) : Except MarkupError (List (List Char)) :=
  let divided := m.isDivided o width
  let lines := wrapLines o width (m.inks divided)
  if (m.kept divided lines).any fun s => hasEmptyShare s.style then .error .emptyShare
  else .ok (lines.map (cropLine width))

end Marked

/-- What a terminal of some width shows of a marked-up text, with values highlighted and wide words
folded. -/
def rendered (width : Nat) (s : String) : Except MarkupError String := do
  let m ← marked s
  return joinLines (← m.highlighted.lines .fold width)

end Calculator.Terminal
