import Calculator.Expr.Basic
import Calculator.Number.Fixed
import Calculator.Sample.Twister

/-!
# Random expressions

A random expression is written term by term: a number, perhaps with a sign before it, groups that
open before a term and close behind a later one, and operators between the terms. No group opens
behind a division sign and every number is positive, so no divisor is zero; groups are nested no
deeper than a fixed bound, so any number of terms can be read back.
-/

namespace Calculator

namespace Generator

/-- How deeply groups are nested at most. -/
def maxDepth : Nat := 16

/-- What was written so far. -/
structure Draft where
  /-- The pieces of text, the last one first. -/
  pieces : List String := []
  /-- The indices of the terms before which the open groups started, the innermost first. -/
  opened : List Nat := []
  /-- Whether a division sign was written last. -/
  afterDivision : Bool := false

/-- The draft with one more piece of text. -/
def Draft.write (d : Draft) (piece : String) : Draft := { d with pieces := piece :: d.pieces }

variable {σ : Type} (draws : Draws σ)

/-- A positive number, whole or with two places. -/
def number (s : σ) : String × σ :=
  let (whole, s) := draws.chance 0.5 s
  if whole then
    let (n, s) := draws.below 999 s
    (toString (n + 1), s)
  else
    let (x, s) := draws.amount s
    (x.fixedText 2 false, s)

/-- Perhaps open a group before a term. -/
def openGroup (index : Nat) (d : Draft) (s : σ) : Draft × σ :=
  if !d.afterDivision && decide (d.opened.length < maxDepth) then
    let (opens, s) := draws.chance 0.1 s
    if opens then ({ d.write "(" with opened := index :: d.opened }, s) else (d, s)
  else (d, s)

/-- Perhaps write a sign before a number. -/
def signNumber (d : Draft) (s : σ) : Draft × σ :=
  let (signed, s) := draws.chance 0.1 s
  if signed then
    let (n, s) := draws.below 2 s
    (d.write (if n = 0 then Sign.minus.text else Sign.plus.text), s)
  else (d, s)

/-- Perhaps close the innermost group behind a term, if it holds an earlier one too. -/
def closeGroup (index : Nat) (d : Draft) (s : σ) : Draft × σ :=
  match d.opened with
  | start :: opened =>
    if start < index then
      let (closes, s) := draws.chance 0.2 s
      if closes then ({ d.write ")" with opened }, s) else (d, s)
    else (d, s)
  | [] => (d, s)

/-- The operators, in the order in which they are drawn. -/
def operators : List Operator := [.add, .sub, .mul, .div]

/-- Write an operator between two terms. -/
def joinTerms (d : Draft) (s : σ) : Draft × σ :=
  let (n, s) := draws.below operators.length s
  let op := operators.getD n .add
  ({ d.write (" " ++ op.text ++ " ") with afterDivision := op = .div }, s)

/-- A term with the groups that open before and close behind it. -/
def term (index : Nat) (d : Draft) (s : σ) : Draft × σ :=
  let (d, s) := openGroup draws index d s
  let (d, s) := signNumber draws d s
  let (n, s) := number draws s
  closeGroup draws index (d.write n) s

/-- The terms from `index` on, of which `more` follow that one. -/
def terms (index : Nat) (d : Draft) (s : σ) : Nat → Draft × σ
  | 0 => term draws index d s
  | more + 1 =>
    let (d, s) := term draws index d s
    let (d, s) := joinTerms draws d s
    terms (index + 1) d s more

/-- The text of a draft, with all groups closed. -/
def Draft.finish (d : Draft) : String :=
  String.join d.pieces.reverse ++ String.join (List.replicate d.opened.length ")")

/-- An expression with `more + 1` terms. -/
def expression (more : Nat) (s : σ) : String :=
  (terms draws 0 {} s more).1.finish

end Generator

/-- Why no expression is generated. -/
inductive GeneratorError where
  | noTerms
deriving DecidableEq, Repr

/-- The wording of a refused request. -/
def GeneratorError.message : GeneratorError → String
  | noTerms => "terms must be at least 1"

/-- An expression with the given number of terms, drawn from a source. -/
def generateFrom {σ : Type} (draws : Draws σ) (s : σ) (terms : Int) :
    Except GeneratorError String :=
  if terms < 1 then .error .noTerms
  else .ok (Generator.expression draws (terms - 1).toNat s)

/-- An expression with the given number of terms, drawn with a seed. -/
def generate (terms seed : Int) : Except GeneratorError String :=
  generateFrom Twister.draws (.ofSeed seed) terms

end Calculator
