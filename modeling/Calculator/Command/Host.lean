import Calculator.Files.Tree

/-!
# The host of a command

A command runs against a host: files, standard streams, a clock and the rest of its surroundings.
The host is a record of actions in some monad, so the same commands run on a real system and on a
recorded one, a value of `World`.
-/

namespace Calculator.Command

/-- The memory in use, and its peak, in bytes. -/
structure MemoryUse where
  current : Nat
  peak : Nat

/-- The surroundings of a command. -/
structure Host (m : Type → Type) where
  /-- The reading of a clock, in seconds. -/
  now : m Float
  /-- The directory in which the command runs. -/
  workingDirectory : m Location
  /-- The name of a log level that is set from outside. -/
  level : m (Option String)
  /-- The standard input to its end. -/
  standardInput : m String
  /-- Whether a path leads to a regular file. -/
  isFile : Path → m (Except FileFault Bool)
  /-- The content of a file. -/
  readFile : Path → m (Except FileFault (List UInt8))
  /-- Write a text to a file. -/
  writeFile : Path → String → m (Except FileFault Unit)
  /-- Write what a profiler gathered to a file. -/
  saveProfile : Path → m (Except FileFault Unit)
  /-- The memory that is traced. -/
  memory : m MemoryUse
  /-- What stands in front of a log line, such as the time. -/
  stamp : m String
  /-- A seed for a command that was given none. -/
  entropy : m Int
  /-- Write to the standard output. -/
  print : String → m Unit
  /-- Write to the standard error. -/
  printError : String → m Unit
  /-- Show the lines of a table under its headings. -/
  printTable : List String → List (List String) → m Unit

/-- A recorded system: what a command finds, and what it leaves behind. -/
structure World where
  files : FileTree
  workingDirectory : Location
  level : Option String := none
  standardInput : String := ""
  /-- The number of ticks of the clock so far. -/
  ticks : Nat := 0
  /-- Everything on the standard output. -/
  output : String := ""
  /-- Everything on the standard error. -/
  errors : String := ""
  /-- The rows of tables that were shown. -/
  rows : List (List String) := []
  /-- The files that were written, the last one first, with their text if it is kept. -/
  written : List (Location × Option String) := []

/-- The length of a tick of the recorded clock. -/
def tick : Float := 1.0 / 1024.0

/-- Write a file of a recorded system. -/
def World.write (p : Path) (text : Option String) (w : World) : Except FileFault Unit × World :=
  match w.files.write w.workingDirectory p ((text.getD "").toUTF8.toList) with
  | .error fault => (.error fault, w)
  | .ok (files, l) => (.ok (), { w with files, written := (l, text) :: w.written })

/-- A recorded system as a host. -/
def Host.recorded : Host (StateM World) where
  now := modifyGet fun w => (Float.ofNat w.ticks * tick, { w with ticks := w.ticks + 1 })
  workingDirectory := do return (← get).workingDirectory
  level := do return (← get).level
  standardInput := do return (← get).standardInput
  isFile p := do
    let w ← get
    return w.files.leadsToFile w.workingDirectory p
  readFile p := do
    let w ← get
    return w.files.read w.workingDirectory p
  writeFile p text := modifyGet (World.write p (some text))
  saveProfile p := modifyGet (World.write p none)
  memory := pure ⟨0, 0⟩
  stamp := pure ""
  entropy := pure 0
  print s := modify fun w => { w with output := w.output ++ s }
  printError s := modify fun w => { w with errors := w.errors ++ s }
  printTable _ rows := modify fun w => { w with rows := w.rows ++ rows }

end Calculator.Command
