import Calculator.Files.Path
import Calculator.Text.Quoted

/-!
# Files

A tree of files is the list of what lies at which location. Every location on the way to one of
them is a directory. A path is followed name by name, so each name but the last must lead to a
directory, also in front of two points. Names and paths may not be too long, which is noticed when
the name is looked up.

A system has further faults, of which only this is known: it may refuse to look names up in a
directory, as it does where the permission to search it is missing. What these faults are is a
parameter, and a system without any is the default.
-/

namespace Calculator

/-- What lies at a location. -/
inductive Node (ε : Type := Empty) where
  | file (content : List UInt8)
  /-- A directory, with the fault that ends every search for a name in it, if there is one. -/
  | directory (refusal : Option ε := none)
deriving DecidableEq, Repr

/-- Why a file cannot be opened. -/
inductive FileFault (ε : Type := Empty) where
  | notFound
  | notDirectory
  | isDirectory
  | nameTooLong
  /-- The path holds the character that would end it. -/
  | nullCharacter
  /-- The system has a reason of its own. -/
  | system (fault : ε)
deriving DecidableEq, Repr

namespace FileFault

/-- The number of a fault that the system reports. -/
def number? : FileFault → Option Nat
  | notFound => some 2
  | notDirectory => some 20
  | isDirectory => some 21
  | nameTooLong => some 36
  | nullCharacter => none

/-- The words for a fault. -/
def words : FileFault → String
  | notFound => "No such file or directory"
  | notDirectory => "Not a directory"
  | isDirectory => "Is a directory"
  | nameTooLong => "File name too long"
  | nullCharacter => "embedded null byte"

/-- A fault, with the path that was opened if the system reports it. -/
def message (fault : FileFault) (p : Path) : String :=
  match fault.number? with
  | some n => "[Errno " ++ toString n ++ "] " ++ fault.words ++ ": " ++ Text.quoted p.text
  | none => fault.words

end FileFault

/-- Files and directories by their locations. -/
structure FileTree (ε : Type := Empty) where
  entries : List (Location × Node ε)

namespace FileTree

variable {ε : Type}

/-- What lies at a location, if anything does. -/
def find? (t : FileTree ε) (l : Location) : Option (Node ε) :=
  match t.entries.lookup l with
  | some node => some node
  | none =>
    if l.isEmpty || t.entries.any (fun entry => l.isPrefixOf entry.1) then some .directory
    else none

/-- Whether a regular file lies at a location. -/
def isFile (t : FileTree ε) (l : Location) : Bool :=
  match t.find? l with
  | some (.file _) => true
  | _ => false

/-- Whether a directory lies at a location. -/
def isDirectory (t : FileTree ε) (l : Location) : Bool :=
  match t.find? l with
  | some (.directory _) => true
  | _ => false

/-- Why a name cannot be looked up in a directory. -/
def refusalOf (refusal : Option ε) (name : String) : Option (FileFault ε) :=
  match refusal with
  | some fault => some (.system fault)
  | none => if Path.maxNameBytes < name.utf8ByteSize then some .nameTooLong else none

/-- Follow names from a location; something must be a directory for a name to lead on from it. -/
def follow (t : FileTree ε) : Location → List String → Except (FileFault ε) Location
  | l, [] => .ok l
  | l, name :: names =>
    match t.find? l with
    | some (.directory refusal) =>
      match refusalOf refusal name with
      | some fault => .error fault
      | none => t.follow (Path.follow l name) names
    | some (.file _) => .error .notDirectory
    | none => .error .notFound

/-- The location to which a path leads. Whatever the last name names may be missing. -/
def locate (t : FileTree ε) (workingDirectory : Location) (p : Path) :
    Except (FileFault ε) Location :=
  if p.hasNull then .error .nullCharacter
  else if Path.maxBytes < p.text.utf8ByteSize then .error .nameTooLong
  else t.follow [] (p.fromTop workingDirectory)

/-- Whether a path leads to a regular file. That nothing is there is an answer; that a name is not
looked up is none. -/
def leadsToFile (t : FileTree ε) (workingDirectory : Location) (p : Path) :
    Except (FileFault ε) Bool :=
  match t.locate workingDirectory p with
  | .ok l => .ok (t.isFile l)
  | .error .nameTooLong => .error .nameTooLong
  | .error (.system fault) => .error (.system fault)
  | .error _ => .ok false

/-- The content of a file. -/
def read (t : FileTree ε) (workingDirectory : Location) (p : Path) :
    Except (FileFault ε) (List UInt8) :=
  match t.locate workingDirectory p with
  | .error fault => .error fault
  | .ok l =>
    match t.find? l with
    | some (.file content) => .ok content
    | some (.directory _) => .error .isDirectory
    | none => .error .notFound

/-- The tree with a file written, new or in place of the one that was there, and the location of the
file. -/
def write (t : FileTree ε) (workingDirectory : Location) (p : Path) (content : List UInt8) :
    Except (FileFault ε) (FileTree ε × Location) :=
  match t.locate workingDirectory p with
  | .error fault => .error fault
  | .ok l =>
    match t.find? l with
    | some (.directory _) => .error .isDirectory
    | some (.file _) => .ok (⟨(l, .file content) :: t.entries.filter (·.1 ≠ l)⟩, l)
    | none => .ok (⟨(l, .file content) :: t.entries⟩, l)

end FileTree

end Calculator
