import Calculator.Parsing.Parse
import Calculator.Report
import Calculator.Text.Uppercase
import Calculator.Toml.Value

/-!
# Settings

Everything in the settings is optional. A document may give them in three sections; what else it
holds plays no part. The sections are checked first, then the settings one by one, and the first
that is wrong is reported with the value that was found.
-/

namespace Calculator

open Toml

/-- How the calculator evaluates, presents and logs. -/
structure Settings where
  mode : Mode := .tree
  output : OutputSettings := {}
  level : String := "WARNING"
deriving DecidableEq, Repr

/-- What is wrong with the settings of a document. -/
inductive SettingsError where
  | notTable (title : String) (found : Value)
  | mode (found : Value)
  | displayThreshold (found : Value)
  | precision (found : Value)
  | groupThousands (found : Value)
  | level (found : Value)
deriving Repr

/-- The wording of what is wrong. -/
def SettingsError.message : SettingsError → String
  | notTable title found => "[" ++ title ++ "] must be a table, got " ++ found.display
  | mode found =>
    "evaluation.mode must be one of " ++ String.intercalate ", " (Mode.all.map Mode.text) ++
      ", got " ++ found.display
  | displayThreshold found =>
    "output.display_threshold must be a positive integer, got " ++ found.display
  | precision found => "output.precision must be a non-negative integer, got " ++ found.display
  | groupThousands found => "output.group_thousands must be true or false, got " ++ found.display
  | level found => "logging.level must be a string, got " ++ found.display

/-- The value that is wrong. -/
def SettingsError.found : SettingsError → Value
  | notTable _ found => found
  | mode found => found
  | displayThreshold found => found
  | precision found => found
  | groupThousands found => found
  | level found => found

namespace Settings

/-- A section of a document; one that is absent is empty. -/
def sectionOf (t : Table) (name : String) : Except SettingsError Table :=
  match t.get? name with
  | none => .ok []
  | some (.table inner) => .ok inner
  | some found => .error (.notTable name found)

/-- A setting of a section: its default if it is absent, and an error if `read` refuses it. -/
def settingOf {α : Type} (t : Table) (name : String) (default : α) (read : Value → Option α)
    (error : Value → SettingsError) : Except SettingsError α :=
  match t.get? name with
  | none => .ok default
  | some found =>
    match read found with
    | some x => .ok x
    | none => .error (error found)

/-- A mode by its word. -/
def modeOf? : Value → Option Mode
  | .string s => Mode.ofText? s
  | _ => none

/-- An integer that is at least `least`. -/
def integerOf? (least : Int) : Value → Option Int
  | .integer n => if least ≤ n then some n else none
  | _ => none

/-- A truth value. -/
def booleanOf? : Value → Option Bool
  | .boolean b => some b
  | _ => none

/-- A text. -/
def stringOf? : Value → Option String
  | .string s => some s
  | _ => none

/-- The level: a name from outside wins over the document if it is not empty. -/
def levelOf (logging : Table) (override : Option String) : Except SettingsError String :=
  match override with
  | none => settingOf logging "level" "WARNING" stringOf? .level
  | some s =>
    if s.isEmpty then settingOf logging "level" "WARNING" stringOf? .level else .ok s

/-- The settings of a document, with the name of a level from outside. -/
def ofTable (t : Table) (override : Option String) : Except SettingsError Settings := do
  let evaluation ← sectionOf t "evaluation"
  let output ← sectionOf t "output"
  let logging ← sectionOf t "logging"
  let mode ← settingOf evaluation "mode" .tree modeOf? .mode
  let displayThreshold ←
    settingOf output "display_threshold" 1000 (integerOf? 1) .displayThreshold
  let precision ← settingOf output "precision" 2 (integerOf? 0) .precision
  let groupThousands ← settingOf output "group_thousands" true booleanOf? .groupThousands
  let level ← levelOf logging override
  .ok { mode, output := { displayThreshold, precision, groupThousands },
        level := Text.uppercase level }

end Settings

end Calculator
