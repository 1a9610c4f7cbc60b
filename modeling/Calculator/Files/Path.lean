import Calculator.Text.Pieces

/-!
# Paths

A path is a root and a list of names. Reading it from a text drops empty names and single points;
two points are kept, since only the files can tell where they lead. An absolute location has the
points resolved: it is the list of names from the top.
-/

namespace Calculator

/-- A path, absolute if its root is not empty. -/
structure Path where
  root : String
  parts : List String
deriving DecidableEq, Repr

/-- A directory or a file by the names that lead to it from the top. -/
abbrev Location := List String

namespace Path

/-- The root with which a text starts: exactly two slashes are a root of their own, and any other
number of them is one. -/
def rootOf (cs : List Char) : String :=
  match (cs.takeWhile (· = '/')).length with
  | 0 => ""
  | 2 => "//"
  | _ => "/"

/-- The names that a text writes, divided by slashes. -/
def names (s : String) : List String := (Text.piecesAt '/' s.toList).map String.ofList

/-- The path that a text writes. -/
def ofText (s : String) : Path :=
  ⟨rootOf s.toList, (names s).filter fun part => part ≠ "" && part ≠ "."⟩

/-- A path as text. -/
def text (p : Path) : String :=
  if p.root = "" && p.parts.isEmpty then "."
  else p.root ++ String.intercalate "/" p.parts

/-- Whether a path starts at the top. -/
def isAbsolute (p : Path) : Bool := p.root ≠ ""

/-- Whether some name of a path holds the character that ends a path for the system. -/
def hasNull (p : Path) : Bool := p.parts.any fun part => part.toList.contains '\x00'

/-- How many bytes the text of a path may have. -/
def maxBytes : Nat := 4095

/-- How many bytes a name may have. -/
def maxNameBytes : Nat := 255

/-- The names of a path from the top, starting at a working directory if it is relative. -/
def fromTop (p : Path) (workingDirectory : Location) : List String :=
  if p.isAbsolute then p.parts else workingDirectory ++ p.parts

/-- One more name behind a location; two points lead one step up, and stay at the top. -/
def follow (l : Location) (name : String) : Location :=
  if name = ".." then l.dropLast else l ++ [name]

/-- The location that a path names, whether or not anything is there. -/
def resolve (p : Path) (workingDirectory : Location) : Location :=
  (p.fromTop workingDirectory).foldl follow []

/-- The absolute path to a location. -/
def ofLocation (l : Location) : Path := ⟨"/", l⟩

end Path

end Calculator
