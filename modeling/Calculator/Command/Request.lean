import Calculator.Command.Options
import Calculator.Files.Path
import Calculator.Number.Integer
import Calculator.Parsing.Parse

/-!
# Requests

What a command line asks for. The words in front of the command belong to the program, those behind
it to the command. Help, and the release for the program, are given whenever they are asked for and
the words themselves can be sorted; only then are the values of options looked at.
-/

namespace Calculator.Command

/-- What to evaluate, and how. -/
structure EvalRequest where
  expression : Option String := none
  file : Option Path := none
  standardInput : Bool := false
  mode : Option Mode := none
  profile : Bool := false
  settings : Option Path := none
deriving DecidableEq, Repr

/-- What a command line asks for. -/
inductive Request where
  | help
  | release
  | eval (request : EvalRequest)
  | bench (files : List Path) (runs : Int)
  | generate (output : Path) (terms : Int) (seed : Option Int)
deriving DecidableEq, Repr

/-- The option that asks for help. -/
def helpSpec : OptionSpec := ⟨["--help"], "help", false⟩

/-- The options of the program. -/
def programSpecs : List OptionSpec := [⟨["--version"], "release", false⟩, helpSpec]

/-- The options of the command that evaluates. -/
def evalSpecs : List OptionSpec :=
  [⟨["--file", "-f"], "file", true⟩, ⟨["--stdin", "-i"], "stdin", false⟩,
    ⟨["--eager"], "eager", false⟩, ⟨["--tree"], "tree", false⟩,
    ⟨["--profile"], "profile", false⟩, ⟨["--config", "-c"], "settings", true⟩, helpSpec]

/-- The options of the command that measures. -/
def benchSpecs : List OptionSpec := [⟨["--repeat", "-r"], "repeat", true⟩, helpSpec]

/-- The options of the command that generates. -/
def generateSpecs : List OptionSpec :=
  [⟨["--terms", "-n"], "terms", true⟩, ⟨["--seed"], "seed", true⟩, helpSpec]

/-- The integer that an option gives. -/
def integerOption? (w : Words) (name spelling : String) : Except UsageError (Option Int) :=
  match w.value? name with
  | none => .ok none
  | some text =>
    match Number.integerOf? text with
    | none => .error (.badInteger spelling text)
    | some n => .ok (some n)

/-- The integer of at least one that an option gives, or its default. -/
def countOption (w : Words) (name spelling : String) (default : Int) : Except UsageError Int := do
  match ← integerOption? w name spelling with
  | none => .ok default
  | some n => if n < 1 then .error (.tooSmall spelling (toString n)) else .ok n

/-- A path on the command line. -/
def pathOf (spelling text : String) : Except UsageError Path :=
  let p := Path.ofText text
  if p.hasNull then .error (.badPath spelling) else .ok p

/-- The path that an option gives. -/
def pathOption? (w : Words) (name spelling : String) : Except UsageError (Option Path) :=
  match w.value? name with
  | none => .ok none
  | some text => (pathOf spelling text).map some

/-- The mode that the options choose; of two the last one counts. -/
def modeOption? (w : Words) : Option Mode :=
  w.options.foldl (fun mode o =>
    if o.1 = "eager" then some .eager else if o.1 = "tree" then some .tree else mode) none

/-- The request to evaluate. -/
def evalRequest (w : Words) : Except UsageError Request := do
  let file ← pathOption? w "file" "--file"
  let settings ← pathOption? w "settings" "--config"
  match w.arguments with
  | _ :: extra :: _ => .error (.extraArgument extra)
  | arguments =>
    .ok (.eval {
      expression := arguments.head?
      file
      standardInput := w.has "stdin"
      mode := modeOption? w
      profile := w.has "profile"
      settings })

/-- The request to measure. -/
def benchRequest (w : Words) : Except UsageError Request := do
  let runs ← countOption w "repeat" "--repeat" 3
  if w.arguments.isEmpty then .error (.missingArgument "FILES...")
  else .ok (.bench (← w.arguments.mapM (pathOf "FILES...")) runs)

/-- The request to generate. -/
def generateRequest (w : Words) : Except UsageError Request := do
  let terms ← countOption w "terms" "--terms" 1000
  let seed ← integerOption? w "seed" "--seed"
  match w.arguments with
  | [] => .error (.missingArgument "OUTPUT")
  | [output] => .ok (.generate (← pathOf "OUTPUT" output) terms seed)
  | _ :: extra :: _ => .error (.extraArgument extra)

/-- A command: its name, its options, and what its words ask for. -/
structure Entry where
  name : String
  specs : List OptionSpec
  request : Words → Except UsageError Request

/-- All commands. -/
def entries : List Entry :=
  [⟨"eval", evalSpecs, evalRequest⟩, ⟨"bench", benchSpecs, benchRequest⟩,
    ⟨"generate", generateSpecs, generateRequest⟩]

/-- What the words behind a command ask for. -/
def commandRequest (entry : Entry) (words : List String) : Except UsageError Request := do
  let w ← sortWords entry.specs true words
  if w.has "help" then .ok .help else entry.request w

/-- What a command line asks for. -/
def Request.ofWords (words : List String) : Except UsageError Request := do
  let w ← sortWords programSpecs false words
  match w.options, w.arguments with
  | ("release", _) :: _, _ => .ok .release
  | _ :: _, _ => .ok .help
  | [], [] => .error .noCommand
  | [], name :: rest =>
    match entries.find? fun entry => entry.name = name with
    | none => .error (.unknownCommand name)
    | some entry => commandRequest entry rest

end Calculator.Command
