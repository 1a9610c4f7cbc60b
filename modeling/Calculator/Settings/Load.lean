import Calculator.Files.Tree
import Calculator.Settings.Basic
import Calculator.Text.Newline
import Calculator.Text.Utf8
import Calculator.Toml.Document

/-!
# Settings files

A settings file is a text in UTF-8 that holds a document. The nearest one is used: the file of the
settled name in the directory of the start or the closest directory above it. A directory of that
name is passed over.
-/

namespace Calculator

/-- Why a file holds no document. -/
inductive DocumentFault where
  | file (fault : FileFault)
  | notUtf8
  | invalid
  | tooDeep
  | integerTooLong (digits : Nat)
deriving DecidableEq, Repr

/-- The fault of a document that cannot be read. -/
def DocumentFault.ofToml : Toml.Error → DocumentFault
  | .invalid => .invalid
  | .tooDeep => .tooDeep
  | .integerTooLong digits => .integerTooLong digits

/-- The document that bytes write. -/
def documentOf (content : List UInt8) (limits : Toml.Limits := {}) :
    Except DocumentFault Toml.Table :=
  match Text.Utf8.decode? content with
  | none => .error .notUtf8
  | some chars => (Toml.read limits.frames (Text.lineFeeds chars)).mapError DocumentFault.ofToml

/-- The document in a file that was read or could not be. -/
def documentIn (content : Except FileFault (List UInt8)) (limits : Toml.Limits := {}) :
    Except DocumentFault Toml.Table :=
  match content with
  | .error fault => .error (.file fault)
  | .ok bytes => documentOf bytes limits

/-- Why no settings were loaded. -/
inductive LoadFault where
  | document (fault : DocumentFault)
  | settings (error : SettingsError)
  /-- A setting is wrong, and its value is too long to be shown. -/
  | notShowable
deriving Repr

/-- The fault of settings that are wrong. The value that is wrong is to be shown; where it is nested
too deeply for that, so is the document. -/
def LoadFault.ofSettings (limits : Toml.Limits) (error : SettingsError) : LoadFault :=
  match error.found.showFault? limits.shown with
  | none => .settings error
  | some .integerTooLong => .notShowable
  | some .tooDeep => .document .tooDeep

/-- What to say of settings that are wrong in a way that was foreseen: the document is invalid or a
setting is. -/
def LoadFault.message? (source : String) : LoadFault → Option String
  | document .invalid => some (source ++ ": invalid TOML")
  | settings error => some (source ++ ": " ++ error.message)
  | document _ => none
  | notShowable => none

namespace Settings

/-- The settings of a document, or what is said of those that are wrong. -/
def ofDocument (t : Toml.Table) (override : Option String) (limits : Toml.Limits := {}) :
    Except LoadFault Settings :=
  (ofTable t override).mapError (.ofSettings limits)

/-- The settings without a document. -/
def withoutDocument (override : Option String) (limits : Toml.Limits := {}) :
    Except LoadFault Settings :=
  ofDocument [] override limits

/-- The settings in the content of a file. -/
def load (content : Except FileFault (List UInt8)) (override : Option String)
    (limits : Toml.Limits := {}) : Except LoadFault Settings :=
  match documentIn content limits with
  | .error fault => .error (.document fault)
  | .ok t => ofDocument t override limits

/-- The name of a settings file. -/
def fileName : String := "calcparse.toml"

/-- A location and all those above it, the nearest first. -/
def upward (l : Location) : List Location :=
  (List.range (l.length + 1)).map fun i => l.take (l.length - i)

/-- Where a settings file may lie, seen from a start, the nearest place first. -/
def places (start : Location) : List Location :=
  (upward start).map fun l => l ++ [fileName]

/-- The start of a search: a path, or the working directory. -/
def startOf (workingDirectory : Location) (start : Option Path) : Location :=
  match start with
  | some p => p.resolve workingDirectory
  | none => workingDirectory

section Search

variable {ε : Type} (files : FileTree ε)

/-- The first of some places where a regular file lies. -/
def firstFile : List Location → Except (FileFault ε) (Option Location)
  | [] => .ok none
  | l :: ls =>
    match files.leadsToFile [] (.ofLocation l) with
    | .error fault => .error fault
    | .ok true => .ok (some l)
    | .ok false => firstFile ls

/-- The nearest settings file. A start that is not absolute asks for the working directory, which may
have been removed. -/
def find (workingDirectory : Location) (start : Option Path) :
    Except (FileFault ε) (Option Location) :=
  if start.any Path.hasNull then .error .nullCharacter
  else if !start.any Path.isAbsolute && !files.isDirectory workingDirectory then .error .notFound
  else firstFile files (places (startOf workingDirectory start))

end Search

end Settings

end Calculator
