import Calculator.Settings.Load

/-!
# The release

Next to its sources the calculator is described by a project file, which gives the release if it is
the file of this very project. Elsewhere the release that was recorded on installation counts, and
if there is none either, the release is unknown.
-/

namespace Calculator.Release

/-- The name of the project. -/
def projectName : String := "calcparse"

/-- The release of the installed calculator. -/
def installed : String := "0.1.0"

/-- What is told when the release is unknown. -/
def unknown : String := "0.0.0"

/-- The release that a project file gives for the project of a name. -/
def ofTable (name : String) (t : Toml.Table) : Option String :=
  match t.get? "project" with
  | some (.table project) =>
    match Toml.Table.get? project "name", Toml.Table.get? project "version" with
    | some (.string n), some (.string v) => if n = name then some v else none
    | _, _ => none
  | _ => none

/-- The release in the content of a project file. A file that is missing or holds no document gives
none; what is no text at all, too deep or too long to be read is not a matter of the release. -/
def ofFile (name : String) (content : Except FileFault (List UInt8)) (limits : Toml.Limits := {}) :
    Except DocumentFault (Option String) :=
  match documentIn content limits with
  | .ok t => .ok (ofTable name t)
  | .error (.file _) => .ok none
  | .error .invalid => .ok none
  | .error fault => .error fault

/-- The release: of the project file, else the recorded one, else unknown. -/
def lookup (name : String) (content : Except FileFault (List UInt8)) (recorded : Option String)
    (limits : Toml.Limits := {}) : Except DocumentFault String :=
  match ofFile name content limits with
  | .error fault => .error fault
  | .ok (some v) => .ok v
  | .ok none => .ok (recorded.getD unknown)

end Calculator.Release
