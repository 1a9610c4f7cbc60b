/-!
# Options and arguments

The words of a command line are options and arguments. A word that starts with a dash, other than
the dash alone, is an option; two dashes end the options. A long option may have its value behind an
equals sign, a short one directly behind its letter; otherwise the value is the next word, whatever
it looks like. Short options without a value may share one dash.
-/

namespace Calculator.Command

/-- An option of a command: its spellings, its name in the result, and whether it takes a value. -/
structure OptionSpec where
  spellings : List String
  name : String
  takesValue : Bool

/-- What is wrong with the words of a command line. -/
inductive UsageError where
  | unknownOption (spelling : String)
  | missingValue (spelling : String)
  | unexpectedValue (spelling : String)
  | noCommand
  | unknownCommand (name : String)
  | missingArgument (name : String)
  | extraArgument (text : String)
  | badInteger (spelling text : String)
  | tooSmall (spelling text : String)
  | badPath (spelling : String)
  | settingsNotFound (path : String)
  | notOneSource
deriving DecidableEq, Repr

/-- The wording of what is wrong. -/
def UsageError.message : UsageError → String
  | unknownOption spelling => "No such option: " ++ spelling
  | missingValue spelling => "Option '" ++ spelling ++ "' requires an argument."
  | unexpectedValue spelling => "Option '" ++ spelling ++ "' does not take a value."
  | noCommand => "Missing command."
  | unknownCommand name => "No such command '" ++ name ++ "'."
  | missingArgument name => "Missing argument '" ++ name ++ "'."
  | extraArgument text => "Got unexpected extra argument (" ++ text ++ ")"
  | badInteger spelling text =>
    "Invalid value for '" ++ spelling ++ "': '" ++ text ++ "' is not a valid integer."
  | tooSmall spelling text =>
    "Invalid value for '" ++ spelling ++ "': " ++ text ++ " is not in the range x>=1."
  | badPath spelling => "Invalid value for '" ++ spelling ++ "': embedded null byte"
  | settingsNotFound path => "Invalid value: config file not found: " ++ path
  | notOneSource => "Invalid value: give exactly one of EXPRESSION, --file or --stdin"

/-- The options that were given, in order, and the arguments. -/
structure Words where
  options : List (String × Option String) := []
  arguments : List String := []
deriving DecidableEq, Repr

namespace Words

/-- The words with more options in front. -/
def prepend (w : Words) (options : List (String × Option String)) : Words :=
  { w with options := options ++ w.options }

/-- Whether an option was given. -/
def has (w : Words) (name : String) : Bool := w.options.any fun o => o.1 == name

/-- The value of an option; the last one counts. -/
def value? (w : Words) (name : String) : Option String :=
  (w.options.reverse.find? fun o => o.1 == name).bind (·.2)

end Words

/-- The options in one word, and the one that still needs the next word as its value. -/
structure Opened where
  complete : List (String × Option String)
  waiting : Option OptionSpec := none

/-- The option with a spelling. -/
def specOf? (specs : List OptionSpec) (spelling : String) : Option OptionSpec :=
  specs.find? fun s => s.spellings.contains spelling

/-- Short options that share one dash. The first that takes a value gets the rest of the word. -/
def cluster (specs : List OptionSpec) : List Char → Except UsageError Opened
  | [] => .ok ⟨[], none⟩
  | c :: cs =>
    let spelling := "-" ++ c.toString
    match specOf? specs spelling with
    | none => .error (.unknownOption spelling)
    | some spec =>
      if spec.takesValue then
        if cs.isEmpty then .ok ⟨[], some spec⟩
        else .ok ⟨[(spec.name, some (String.ofList cs))], none⟩
      else
        match cluster specs cs with
        | .error e => .error e
        | .ok opened => .ok { opened with complete := (spec.name, none) :: opened.complete }

/-- A word as its part before the first equals sign and, if there is one, the part behind it. -/
def splitValue (word : List Char) : List Char × Option (List Char) :=
  let (spelling, rest) := word.span fun c => c ≠ '='
  match rest with
  | _ :: value => (spelling, some value)
  | [] => (spelling, none)

/-- The options in one word that starts with a dash. -/
def openWord (specs : List OptionSpec) (word : String) : Except UsageError Opened :=
  let (spelling, value) := splitValue word.toList
  let long := spelling.take 2 == ['-', '-']
  match if long then specOf? specs (String.ofList spelling) else none, value with
  | some spec, some value =>
    if spec.takesValue then .ok ⟨[(spec.name, some (String.ofList value))], none⟩
    else .error (.unexpectedValue (String.ofList spelling))
  | some spec, none =>
    .ok (if spec.takesValue then ⟨[], some spec⟩ else ⟨[(spec.name, none)], none⟩)
  | none, _ =>
    if long then .error (.unknownOption (String.ofList spelling))
    else cluster specs (word.toList.drop 1)

/-- Whether a word is an option. -/
def isOption (word : String) : Bool :=
  match word.toList with
  | '-' :: _ :: _ => true
  | _ => false

/-- Sort words into options and arguments. If options and arguments may not be mixed, the first
argument ends the options. -/
def sortWords (specs : List OptionSpec) (mixed : Bool) : List String → Except UsageError Words
  | [] => .ok {}
  | word :: words =>
    if word = "--" then .ok { arguments := words }
    else if isOption word then
      match openWord specs word with
      | .error e => .error e
      | .ok ⟨complete, none⟩ => (sortWords specs mixed words).map (·.prepend complete)
      | .ok ⟨complete, some spec⟩ =>
        match words with
        | [] => .error (.missingValue word)
        | value :: words =>
          (sortWords specs mixed words).map (·.prepend (complete ++ [(spec.name, some value)]))
    else if mixed then
      (sortWords specs mixed words).map fun w => { w with arguments := word :: w.arguments }
    else .ok { arguments := word :: words }

end Calculator.Command
