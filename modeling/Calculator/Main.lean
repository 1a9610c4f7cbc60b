import Calculator.Command.Run

/-!
# The program

The command line on a real system. Everything that is decided is decided by `Command.run`; this
module only gives it the files, the streams and the clock.
-/

namespace Calculator.Command

/-- The fault of a file as the system reports it. -/
def systemFault : IO.Error → FileFault
  | .inappropriateType _ code _ => if code = 21 then .isDirectory else .notDirectory
  | .invalidArgument _ _ _ => .nameTooLong
  | _ => .notFound

/-- Run an action on a file of the system. -/
def attempt {α : Type} (action : IO α) : IO (Except FileFault α) := do
  try return .ok (← action)
  catch e => return .error (systemFault e)

/-- Whether a path of the system leads to a file that can be read. -/
def readable (p : Path) : IO (Except FileFault Bool) := do
  let opened ← attempt do
    let handle ← IO.FS.Handle.mk p.text .read
    discard (handle.read 1)
  match opened with
  | .ok () => return .ok true
  | .error .nameTooLong => return .error .nameTooLong
  | .error _ => return .ok false

/-- The lines of a stream to its end, behind those read before. -/
partial def readLines (stream : IO.FS.Stream) (before : String) : IO String := do
  let line ← stream.getLine
  if line.isEmpty then return before else readLines stream (before ++ line)

/-- The system as a host. -/
def Host.system : Host IO where
  now := do return Float.ofNat (← IO.monoNanosNow) / 1000000000.0
  workingDirectory := do return (Path.ofText (← IO.currentDir).toString).parts
  level := IO.getEnv "CALCPARSE_LOG_LEVEL"
  standardInput := do readLines (← IO.getStdin) ""
  isFile := readable
  readFile p := attempt do return (← IO.FS.readBinFile p.text).toList
  writeFile p text := attempt (IO.FS.writeFile p.text text)
  saveProfile p := attempt (IO.FS.writeFile p.text "")
  memory := return ⟨0, 0⟩
  stamp := do return toString (← IO.monoMsNow) ++ " - "
  entropy := do
    let bytes ← IO.getRandomBytes 16
    return bytes.toList.foldl (fun n b => n * 256 + (b.toNat : Int)) 0
  print s := do (← IO.getStdout).putStr s
  printError s := do (← IO.getStderr).putStr s
  printTable headings rows := do
    let out ← IO.getStdout
    for row in headings :: rows do
      out.putStrLn (String.intercalate "  " row)

end Calculator.Command

/-- Run the command line of the program. -/
def main (words : List String) : IO UInt32 := do
  match ← Calculator.Command.run Calculator.Command.Host.system .machine words with
  | .exit code => return code.toUInt32
  | .crash reason =>
    IO.eprintln (repr reason)
    return 1
