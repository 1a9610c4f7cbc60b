import Calculator.Number.Integer
import Calculator.Number.Shortest
import Calculator.Text.Quoted

/-!
# Values of a settings document

A document in TOML is a table: names with values, in the order in which they were written. A value
is a text, a number, a truth value, a day, a time, both of them, a list or again a table.

`Value.display` shows a value in a message. Numbers with a fraction have the fewest digits that read
back; they are written positionally from `0.0001` up to below `10 ^ 16` and with an exponent of at
least two digits elsewhere.
-/

namespace Calculator.Toml

/-- A day of the calendar. -/
structure Date where
  year : Nat
  month : Nat
  day : Nat
deriving DecidableEq, Repr

/-- A time of the day, down to the microsecond. -/
structure Time where
  hour : Nat
  minute : Nat
  second : Nat
  micro : Nat
deriving DecidableEq, Repr

/-- A value. The offset of a moment is counted in minutes east. -/
inductive Value where
  | string (s : String)
  | integer (n : Int)
  | float (x : Binary64)
  | boolean (b : Bool)
  | date (d : Date)
  | time (t : Time)
  | moment (d : Date) (t : Time) (offset : Option Int)
  | array (items : List Value)
  | table (entries : List (String × Value))
deriving Repr

/-- Names with values, in the order in which they were written. -/
abbrev Table := List (String × Value)

namespace Table

/-- The value of a name. -/
def get? (t : Table) (name : String) : Option Value := t.lookup name

/-- The table with another value for a name that it has. -/
def replace (t : Table) (name : String) (v : Value) : Table :=
  t.map fun entry => if entry.1 == name then (name, v) else entry

/-- The table with a name that it does not have yet. -/
def append (t : Table) (name : String) (v : Value) : Table := t ++ [(name, v)]

end Table

/-- How deeply the system lets data be nested: how many of its frames reading a value may take, and
how many levels of a value messages can show. The defaults are what is left of a thousand frames. -/
structure Limits where
  frames : Nat := 990
  shown : Nat := 960
deriving DecidableEq, Repr

namespace Value

/-- Digits `d₁d₂…` with the point behind the first `point` of them, with zeros filled in. -/
def positional (ds : List Char) (point : Int) : List Char :=
  match point with
  | .ofNat n =>
    if n = 0 then '0' :: '.' :: ds
    else
      let whole := ds.take n ++ List.replicate (n - ds.length) '0'
      let fraction := ds.drop n
      whole ++ '.' :: (if fraction.isEmpty then ['0'] else fraction)
  | .negSucc n => '0' :: '.' :: List.replicate (n + 1) '0' ++ ds

/-- Digits with the point behind the first one and an exponent of at least two digits. -/
def scientific (ds : List Char) (exponent : Int) : List Char :=
  let body :=
    match ds with
    | [] => []
    | [d] => [d]
    | d :: more => d :: '.' :: more
  let sign := if exponent < 0 then '-' else '+'
  body ++ 'e' :: sign :: Number.digitsPadded 2 exponent.natAbs

/-- A number with a fraction, in the fewest digits that read back. -/
def floatText (x : Binary64) : String :=
  if x.isNaN then "nan"
  else
    let body :=
      if !x.isFinite then ['i', 'n', 'f']
      else if x.isZero then ['0', '.', '0']
      else
        let d := Decimal.shortest x
        let ds := Number.digitsOf d.coefficient
        let point := ds.length + d.exponent
        let ds := (ds.reverse.dropWhile (· = '0')).reverse
        if -4 < point ∧ point ≤ 16 then positional ds point else scientific ds (point - 1)
    String.ofList (if x.negative then '-' :: body else body)

/-- The parts of a time: seconds only if they or the microseconds are not zero, microseconds only if
they are not. -/
def timeParts (t : Time) : List Nat :=
  if t.micro ≠ 0 then [t.hour, t.minute, t.second, t.micro]
  else if t.second ≠ 0 then [t.hour, t.minute, t.second]
  else [t.hour, t.minute]

/-- Numbers divided by commas. -/
def commaList (ns : List Nat) : String := String.intercalate ", " (ns.map toString)

/-- The distance of a clock from the prime meridian, in whole days and positive seconds. -/
def offsetText (minutes : Int) : String :=
  if minutes = 0 then "datetime.timezone.utc"
  else
    let seconds := minutes * 60
    let days := seconds.fdiv 86400
    let rest := seconds.fmod 86400
    let parts :=
      (if days = 0 then [] else ["days=" ++ toString days]) ++
        (if rest = 0 then [] else ["seconds=" ++ toString rest])
    "datetime.timezone(datetime.timedelta(" ++ String.intercalate ", " parts ++ "))"

mutual

/-- A value as messages show it. -/
def display : Value → String
  | string s => Text.quoted s
  | integer n => toString n
  | float x => floatText x
  | boolean true => "True"
  | boolean false => "False"
  | date d => "datetime.date(" ++ commaList [d.year, d.month, d.day] ++ ")"
  | time t => "datetime.time(" ++ commaList (timeParts t) ++ ")"
  | moment d t offset =>
    let zone :=
      match offset with
      | none => ""
      | some minutes => ", tzinfo=" ++ offsetText minutes
    "datetime.datetime(" ++ commaList ([d.year, d.month, d.day] ++ timeParts t) ++ zone ++ ")"
  | array items => "[" ++ String.intercalate ", " (displayItems items) ++ "]"
  | table entries => "\x7b" ++ String.intercalate ", " (displayEntries entries) ++ "\x7d"

/-- The items of a list as messages show them. -/
def displayItems : List Value → List String
  | [] => []
  | v :: vs => v.display :: displayItems vs

/-- The entries of a table as messages show them. -/
def displayEntries : List (String × Value) → List String
  | [] => []
  | (name, v) :: entries => (Text.quoted name ++ ": " ++ v.display) :: displayEntries entries

end

/-- Why messages cannot show a value. -/
inductive ShowFault where
  /-- An integer is too long to be written. -/
  | integerTooLong
  /-- Lists and tables are nested too deeply. -/
  | tooDeep
deriving DecidableEq, Repr

mutual

/-- What keeps messages from showing a value within a number of levels: the first obstacle from left
to right. -/
def showFault? (levels : Nat) : Value → Option ShowFault
  | integer n =>
    if levels = 0 then some .tooDeep
    else if Number.isWritable n then none
    else some .integerTooLong
  | array items => if levels = 0 then some .tooDeep else itemsFault? (levels - 1) items
  | table entries => if levels = 0 then some .tooDeep else entriesFault? (levels - 1) entries
  | _ => if levels = 0 then some .tooDeep else none

/-- What keeps messages from showing the items of a list. -/
def itemsFault? (levels : Nat) : List Value → Option ShowFault
  | [] => none
  | v :: vs =>
    match v.showFault? levels with
    | some fault => some fault
    | none => itemsFault? levels vs

/-- What keeps messages from showing the entries of a table. -/
def entriesFault? (levels : Nat) : List (String × Value) → Option ShowFault
  | [] => none
  | (_, v) :: entries =>
    match v.showFault? levels with
    | some fault => some fault
    | none => entriesFault? levels entries

end

end Value

end Calculator.Toml
