/-!
# Runs of cases

Most characters that have a form in the other case lie in runs with one common distance, and in some
alphabets the two cases alternate. A case mapping is written as a list of such runs.
-/

namespace Calculator.Text

/-- A run of characters whose forms in the other case lie at one distance: the characters
`first, first + step, ..., last`. -/
structure CaseRun where
  first : Nat
  last : Nat
  step : Nat
  distance : Int

/-- Whether a code point belongs to the run. -/
def CaseRun.covers (r : CaseRun) (n : Nat) : Bool :=
  decide (r.first ≤ n) && decide (n ≤ r.last) && decide ((n - r.first) % r.step = 0)

/-- The form of a character that the runs give: the character itself if it lies in none of them. -/
def formIn (runs : List CaseRun) (c : Char) : Char :=
  match runs.find? fun r => r.covers c.toNat with
  | some r => Char.ofNat ((c.toNat : Int) + r.distance).toNat
  | none => c

end Calculator.Text
