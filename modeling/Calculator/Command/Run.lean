import Calculator.Command.Host
import Calculator.Command.Log
import Calculator.Command.Request
import Calculator.Release
import Calculator.Sample.Generator
import Calculator.Terminal.Grid
import Calculator.Timing

/-!
# Running a command

A command ends with an exit code: zero if it did what was asked, two if the command line is wrong,
and one if the expression, a file or the settings are. A few faults are not foreseen by any of
these; they end the program with a crash.
-/

namespace Calculator.Command

/-- A fault that no command foresees. -/
inductive Crash where
  /-- The name of the log level is taken for something else. -/
  | reservedLevel (use : ReservedLevel)
  | precision (e : PrecisionError)
  | document (fault : DocumentFault)
  /-- A message would show an integer that is too long. -/
  | notShowable
  | file (fault : FileFault)
  | generator (e : GeneratorError)
  | walk (fault : Fault)
  /-- A file name is no markup. -/
  | markup (e : Terminal.MarkupError)
deriving Repr

/-- How a command ends. -/
inductive Ending where
  | exit (code : Nat)
  | crash (reason : Crash)
deriving Repr

variable {m : Type → Type} [Monad m] (host : Host m)

/-- End with an error message. -/
def failWith {α : Type} (message : String) : ExceptT Ending m α := do
  host.printError (Terminal.whole message ++ "\n")
  throw (.exit 1)

/-- End because the command line is wrong. -/
def refuse {α : Type} (e : UsageError) : ExceptT Ending m α := do
  host.printError ("Error: " ++ e.message ++ "\n")
  throw (.exit 2)

/-- Write a log line if its level reaches the threshold. -/
def log (threshold : Nat) (level : LogLevel) (message : String) : ExceptT Ending m Unit := do
  if threshold ≤ level.severity then
    host.printError ((← host.stamp) ++ logLine level message)

/-- A time in seconds, written in milliseconds with three places. -/
def milliseconds (seconds : Float) : String :=
  (Binary64.ofFloat (seconds * 1000.0)).fixedText 3 false

/-- A natural number, grouped in thousands. -/
def groupedText (n : Nat) : String := String.ofList (groupThousands (Number.digitsOf n))

/-! ## Evaluating -/

/-- Whether a path leads to a regular file. -/
def isFile (p : Path) : ExceptT Ending m Bool := do
  match ← host.isFile p with
  | .ok answer => return answer
  | .error fault => throw (.crash (.file fault))

/-- The settings file that a command uses: the one that it was given, or the nearest one. -/
def settingsFile (given : Option Path) : ExceptT Ending m (Option Path) := do
  match given with
  | some p => if ← isFile host p then return some p else refuse host (.settingsNotFound p.text)
  | none =>
    let places := (Settings.places (← host.workingDirectory)).map Path.ofLocation
    places.findM? fun p => isFile host p

/-- The settings that a command uses. -/
def settings (given : Option Path) : ExceptT Ending m Settings := do
  let file ← settingsFile host given
  let level ← host.level
  let loaded ←
    match file with
    | none => pure (Settings.withoutDocument level)
    | some p => do
      let content ← host.readFile p
      pure (Settings.load content level)
  match loaded with
  | .ok s => return s
  | .error fault =>
    match fault.message? (file.elim "" Path.text), fault with
    | some message, _ => failWith host message
    | none, .document fault => throw (.crash (.document fault))
    | none, _ => throw (.crash .notShowable)

/-- The expression that a command evaluates. Exactly one source must be given. -/
def sourceOf (request : EvalRequest) (threshold : Nat) : ExceptT Ending m Source := do
  match request.expression, request.file, request.standardInput with
  | some text, none, false =>
    log host threshold .debug "Reading expression from the command line"
    return .text text.toList
  | none, some p, false =>
    log host threshold .info ("Reading expression from " ++ p.text)
    match ← host.readFile p with
    | .ok content => return .bytePieces [content]
    | .error fault =>
      failWith host ("Could not open file " ++ p.text ++ ": " ++ fault.message p)
  | none, none, true =>
    log host threshold .info "Reading expression from stdin"
    let text ← host.standardInput
    return .text (Text.lineFeeds text.toList)
  | _, _, _ => refuse host .notOneSource

/-- Report the memory that is traced. -/
def reportMemory (threshold : Nat) (stage : String) : ExceptT Ending m Unit := do
  let use ← host.memory
  log host threshold .info ("Memory " ++ stage ++ ": current=" ++ toString use.current ++
    " bytes, peak=" ++ toString use.peak ++ " bytes")
  host.printError ("memory " ++ stage ++ ": current=" ++ groupedText use.current ++ " B peak=" ++
    groupedText use.peak ++ " B\n")

/-- The message of an expression that cannot be parsed. -/
def ParseFault.message : ParseFault → String
  | .failed f => f.message
  | .tooDeep => "nested too deeply"

/-- The file for the profile of a mode. -/
def profileFile : Mode → Path
  | .tree => .ofText "cpu_profile.prof"
  | .eager => .ofText "cpu_profile_eager.prof"

/-- Evaluate an expression and present the result. -/
def eval (ops : Arithmetic) (request : EvalRequest) : ExceptT Ending m Unit := do
  let s ← settings host request.settings
  let threshold ←
    match thresholdOf s.level with
    | .ok threshold => pure threshold
    | .error use => throw (.crash (.reservedLevel use))
  let mode := request.mode.getD s.mode
  log host threshold .debug ("Parsing in " ++ mode.text ++ " mode")
  let source ← sourceOf host request threshold
  let started ← host.now
  let e ←
    match mode.parse ops source with
    | .ok e => pure e
    | .error fault => failWith host ("Could not parse expression: " ++ ParseFault.message fault)
  log host threshold .info ("Parsed in " ++ milliseconds ((← host.now) - started) ++ " ms")
  if request.profile then reportMemory host threshold "after parse"
  let started ← host.now
  let value ←
    match e.evaluate ops with
    | .ok x => pure x
    | .error (.failed f) => failWith host ("Failed evaluation: " ++ f.message)
    | .error fault => throw (.crash (.walk fault))
  log host threshold .info ("Evaluated in " ++ milliseconds ((← host.now) - started) ++ " ms")
  if request.profile then
    reportMemory host threshold "after evaluation"
    if let .error fault := ← host.saveProfile (profileFile mode) then throw (.crash (.file fault))
    log host threshold .info ("CPU profile written to " ++ (profileFile mode).text)
  match renderResult e value s.output with
  | .ok line => host.print (Terminal.whole line ++ "\n")
  | .error (.precision err) => throw (.crash (.precision err))
  | .error (.walk fault) => throw (.crash (.walk fault))

/-! ## Measuring -/

/-- The headings of the table of times. -/
def benchHeadings : List String := ["File", "Mode", "Parse (ms)", "Eval (ms)", "Nodes"]

/-- Measure one mode on the content of a file, as a row of the table. -/
def benchRow (ops : Arithmetic) (p : Path) (content : List UInt8) (runs : Int) (mode : Mode) :
    ExceptT Ending m (List String) := do
  match ← measure host.now ops mode content runs with
  | .ok t =>
    return [p.text, mode.text, milliseconds t.parse, milliseconds t.evaluate, groupedText t.size]
  | .error (.parse fault) => failWith host (p.text ++ ": " ++ ParseFault.message fault)
  | .error (.walk (.failed f)) => failWith host (p.text ++ ": " ++ f.message)
  | .error (.walk fault) => throw (.crash (.walk fault))

/-- Measure all modes on one file. -/
def benchFile (ops : Arithmetic) (runs : Int) (p : Path) :
    ExceptT Ending m (List (List String)) := do
  match ← host.readFile p with
  | .ok content => Mode.all.mapM (benchRow host ops p content runs)
  | .error fault => failWith host ("Could not open file " ++ p.text ++ ": " ++ fault.message p)

/-- Measure all modes on files and show the times. -/
def bench (ops : Arithmetic) (files : List Path) (runs : Int) : ExceptT Ending m Unit := do
  let rows ← files.mapM (benchFile host ops runs)
  match Terminal.gridLines Terminal.standardWidth benchHeadings rows.flatten with
  | .ok lines => host.printTable benchHeadings lines
  | .error e => throw (.crash (.markup e))

/-! ## Generating -/

/-- The message that an expression was written, in marked-up text. -/
def wroteMessage (terms : Int) (output : Path) : String :=
  "[green]Wrote " ++ groupedText terms.toNat ++ " terms to " ++ output.text ++ "[/green]"

/-- Write a random expression to a file. -/
def generate (output : Path) (terms : Int) (seed : Option Int) : ExceptT Ending m Unit := do
  let seed ←
    match seed with
    | some n => pure n
    | none => host.entropy
  match Calculator.generate terms seed with
  | .error e => throw (.crash (.generator e))
  | .ok text =>
    match ← host.writeFile output (text ++ "\n") with
    | .error fault => throw (.crash (.file fault))
    | .ok () =>
      match Terminal.rendered Terminal.standardWidth (wroteMessage terms output) with
      | .ok message => host.print (message ++ "\n")
      | .error e => throw (.crash (.markup e))

/-! ## The program -/

/-- What the program tells of itself. -/
def helpText : String :=
  "Usage: calcparse [OPTIONS] COMMAND [ARGS]...\n\n" ++
  "  Parse and evaluate arithmetic expressions\n\n" ++
  "Options:\n" ++
  "  --version  Show version and environment information\n" ++
  "  --help     Show this message and exit.\n\n" ++
  "Commands:\n" ++
  "  eval      Parse and evaluate an arithmetic expression.\n" ++
  "  bench     Time parsing and evaluation in tree and eager mode.\n" ++
  "  generate  Write a random valid expression for benchmarking.\n"

/-- Carry out a request. -/
def carryOut (ops : Arithmetic) : Request → ExceptT Ending m Unit
  | .help => host.print helpText
  | .release => host.print ("calcparse version " ++ Release.installed ++ "\n")
  | .eval request => eval host ops request
  | .bench files runs => bench host ops files runs
  | .generate output terms seed => generate host output terms seed

/-- Run a command line. -/
def run (ops : Arithmetic) (words : List String) : m Ending := do
  let attempt : ExceptT Ending m Unit :=
    match Request.ofWords words with
    | .ok request => carryOut host ops request
    | .error e => refuse host e
  match ← attempt.run with
  | .ok () => return .exit 0
  | .error ending => return ending

end Calculator.Command
