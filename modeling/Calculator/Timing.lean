import Calculator.Parsing.Parse

/-!
# Timing

An expression is parsed and evaluated a number of times, and the best times are kept. The clock is
an action of the surrounding monad, so the same measurement runs against a real clock and against a
list of recorded readings.
-/

namespace Calculator

/-- The best times in seconds, and the number of nodes of the last result. -/
structure Timing where
  parse : Float
  evaluate : Float
  size : Nat

/-- Before any run, every time is an improvement. -/
def Timing.none : Timing := ⟨1.0 / 0.0, 1.0 / 0.0, 0⟩

/-- Why a measurement was broken off. -/
inductive TimingFault where
  | parse (fault : ParseFault)
  | walk (fault : Fault)
deriving DecidableEq, Repr

/-- The smaller of two times; the earlier one wins where they do not compare. -/
def better (best new : Float) : Float := if new < best then new else best

/-- Measure `runs` runs, starting from the best times so far. -/
def measureFrom {m : Type → Type} [Monad m] (now : m Float) (ops : Arithmetic) (mode : Mode)
    (content : List UInt8) (best : Timing) : Nat → m (Except TimingFault Timing)
  | 0 => pure (.ok best)
  | runs + 1 => do
    let started ← now
    match mode.parse ops (.bytePieces [content]) with
    | .error fault => pure (.error (.parse fault))
    | .ok e =>
      let parsed ← now
      match e.evaluate ops, e.size with
      | .error fault, _ => pure (.error (.walk fault))
      | _, .error fault => pure (.error (.walk fault))
      | .ok _, .ok size =>
        let evaluated ← now
        let best : Timing :=
          ⟨better best.parse (parsed - started), better best.evaluate (evaluated - parsed), size⟩
        measureFrom now ops mode content best runs

/-- The best times of `runs` runs over a text in UTF-8. -/
def measure {m : Type → Type} [Monad m] (now : m Float) (ops : Arithmetic) (mode : Mode)
    (content : List UInt8) (runs : Int) : m (Except TimingFault Timing) :=
  measureFrom now ops mode content .none runs.toNat

end Calculator
