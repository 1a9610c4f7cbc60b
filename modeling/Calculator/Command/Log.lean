/-!
# Log lines

The progress of a command is logged in lines that name the part of the program, the level and the
message. A line is written if its level reaches the threshold, which the settings give by name.
-/

namespace Calculator.Command

/-- The level of a log line. -/
inductive LogLevel where
  | debug
  | info
deriving DecidableEq, Repr

/-- How severe a level is. -/
def LogLevel.severity : LogLevel → Nat
  | debug => 10
  | info => 20

/-- The word for a level. -/
def LogLevel.text : LogLevel → String
  | debug => "DEBUG"
  | info => "INFO"

/-- The severities that have names. -/
def severities : List (String × Nat) :=
  [("CRITICAL", 50), ("FATAL", 50), ("ERROR", 40), ("WARNING", 30), ("WARN", 30), ("INFO", 20),
    ("DEBUG", 10), ("NOTSET", 0)]

/-- What a name is taken for that stands for no severity. -/
inductive ReservedLevel where
  /-- The form of a log line. -/
  | form
  /-- The table of such forms. -/
  | table
deriving DecidableEq, Repr

/-- The names that are taken for something other than a severity. -/
def reservedLevels : List (String × ReservedLevel) := [("BASIC_FORMAT", .form), ("_STYLES", .table)]

/-- The threshold that a name stands for. A name that means nothing stands for warnings; a reserved
name stands for no threshold. -/
def thresholdOf (name : String) : Except ReservedLevel Nat :=
  match reservedLevels.lookup name with
  | some reserved => .error reserved
  | none => .ok ((severities.lookup name).getD 30)

/-- A log line without its time. -/
def logLine (level : LogLevel) (message : String) : String :=
  "calcparse.cli.run - " ++ level.text ++ " - " ++ message ++ "\n"

end Calculator.Command
