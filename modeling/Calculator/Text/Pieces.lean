/-!
# Pieces

A list in pieces: divided by separators, which belong to no piece, or cut at given lengths.
-/

namespace Calculator.Text

/-- A list in pieces, divided by the elements that a test picks out. -/
def piecesBy {α : Type} (divides : α → Bool) : List α → List (List α)
  | [] => [[]]
  | x :: xs =>
    if divides x then [] :: piecesBy divides xs
    else
      match piecesBy divides xs with
      | [] => [[x]]
      | piece :: pieces => (x :: piece) :: pieces

/-- A text in pieces, divided by a character. -/
def piecesAt (mark : Char) (cs : List Char) : List (List Char) := piecesBy (· = mark) cs

/-- The pieces of a list that have the given lengths, one behind the other. -/
def piecesOf {α : Type} : List Nat → List α → List (List α)
  | [], _ => []
  | n :: ns, xs => xs.take n :: piecesOf ns (xs.drop n)

end Calculator.Text
