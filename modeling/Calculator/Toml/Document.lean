import Calculator.Toml.Scalar

/-!
# Documents

A document is a sequence of statements, one a line: a name with its value, or the header of a table
or of the next table of a list. A name may be a path of names with points between them. Paths create
the tables that they pass through, and the format restricts what may be said twice:

* a table that has a header gets no second one, and one that a path of a statement has passed
  through gets none after the header of the next;
* a list or table that is written as a value is sealed: nothing is added to it later.

Values that hold values are read by readers within readers, and the system has so many frames for
them. A list takes two and a table three; what a value takes that holds no others is not counted.
-/

namespace Calculator.Toml

/-! ## Names -/

/-- Whether a character may stand in a name without quotes. -/
def isBare (c : Char) : Bool := c.isAlphanum || c = '-' || c = '_'

/-- One name: bare or in quotes. -/
def name (cs : List Char) : Except Error (String × List Char) :=
  match cs with
  | '"' :: rest =>
    match basicText false .nothing [] rest with
    | .error e => .error e
    | .ok (done, rest) => .ok (String.ofList done.reverse, rest)
  | '\x27' :: rest => literalText rest
  | _ =>
    let (bare, rest) := cs.span isBare
    if bare.isEmpty then .error .invalid else .ok (String.ofList bare, rest)

/-- More names of a path behind those in `done`, which are in reverse order. The first list only
bounds the loop. -/
def morePath (done : List String) :
    List Char → List Char → Except Error (List String × List Char)
  | [], _ => .error .invalid
  | _ :: fuel, cs =>
    let cs := skipSpace cs
    match cs with
    | '.' :: rest =>
      match name (skipSpace rest) with
      | .error e => .error e
      | .ok (n, rest) => morePath (n :: done) fuel rest
    | _ => .ok (done.reverse, cs)

/-- A path of names with points between them, and the rest behind the blanks that follow. -/
def path (cs : List Char) : Except Error (List String × List Char) :=
  match name cs with
  | .error e => .error e
  | .ok (n, rest) => morePath [n] (' ' :: rest) rest

/-! ## Restrictions -/

/-- What a path may no longer be used for. -/
inductive Restriction where
  /-- No header may name it. -/
  | declared
  /-- Nothing may be added to it. -/
  | closed
deriving DecidableEq, Repr

/-- A restriction on a path, or, if it is deep, on everything below it as well. -/
structure Rule where
  path : List String
  restriction : Restriction
  deep : Bool
deriving DecidableEq, Repr

/-- Whether a path is restricted. The document itself never is. -/
def restricted (rules : List Rule) (path : List String) (r : Restriction) : Bool :=
  !path.isEmpty && rules.any fun rule =>
    rule.restriction == r && (rule.path == path || rule.deep && rule.path.isPrefixOf path)

/-- The rules without those on a path and on everything below it. -/
def released (rules : List Rule) (path : List String) : List Rule :=
  rules.filter fun rule => !path.isPrefixOf rule.path

/-! ## Tables within tables -/

/-- Change the table at a path, creating tables on the way. Where a list of tables stands on the
path and `lists` allows it, its last table is meant. -/
def changeAt (lists : Bool) (change : Table → Except Error Table) :
    List String → Table → Except Error Table
  | [], t => change t
  | n :: path, t =>
    match t.get? n with
    | none => do
      let inner ← changeAt lists change path []
      .ok (t.append n (.table inner))
    | some (.table inner) => do
      let inner ← changeAt lists change path inner
      .ok (t.replace n (.table inner))
    | some (.array items) =>
      match lists, items.getLast? with
      | true, some (.table inner) => do
        let inner ← changeAt lists change path inner
        .ok (t.replace n (.array (items.dropLast ++ [.table inner])))
      | _, _ => .error .invalid
    | some _ => .error .invalid

/-- Give a name its value; it must not have one yet. -/
def define (n : String) (v : Value) (t : Table) : Except Error Table :=
  if (t.get? n).isSome then .error .invalid else .ok (t.append n v)

/-- Add an empty table to the list of tables with a name. -/
def addToList (n : String) (t : Table) : Except Error Table :=
  match t.get? n with
  | none => .ok (t.append n (.array [.table []]))
  | some (.array items) => .ok (t.replace n (.array (items ++ [.table []])))
  | some _ => .error .invalid

/-- Whether a value holds other values. -/
def Value.isContainer : Value → Bool
  | .array _ => true
  | .table _ => true
  | _ => false

/-- A path as the path of its table and the last name. -/
def splitLast (path : List String) : List String × String := (path.dropLast, path.getLastD "")

/-! ## Values -/

/-- The rest behind blanks, line ends and comments. -/
def skipToItem (inComment : Bool) : List Char → Except Error (List Char)
  | [] => .ok []
  | c :: cs =>
    if c = '\n' then skipToItem false cs
    else if inComment then if spoilsLine c then .error .invalid else skipToItem true cs
    else if isSpace c then skipToItem false cs
    else if c = '#' then skipToItem true cs
    else .ok (c :: cs)

/-- The items of a list up to its end, behind those in `done`, which are in reverse order. The first
list only bounds the loop. -/
def listItems (value : List Char → Except Error (Value × List Char)) (done : List Value) :
    List Char → List Char → Except Error (List Value × List Char)
  | [], _ => .error .invalid
  | _ :: fuel, cs => do
    let cs ← skipToItem false cs
    match cs with
    | ']' :: rest => .ok (done.reverse, rest)
    | _ =>
      let (v, cs) ← value cs
      match ← skipToItem false cs with
      | ']' :: rest => .ok ((v :: done).reverse, rest)
      | ',' :: rest => listItems value (v :: done) fuel rest
      | _ => .error .invalid

/-- A path and its value. -/
def pathWithValue (value : List Char → Except Error (Value × List Char)) (cs : List Char) :
    Except Error ((List String × Value) × List Char) := do
  let (p, cs) ← path cs
  match cs with
  | '=' :: rest =>
    let (v, cs) ← value (skipSpace rest)
    .ok ((p, v), cs)
  | _ => .error .invalid

/-- The entries of a table that is written as a value, up to its end. The first list only bounds the
loop. -/
def tableEntries (value : List Char → Except Error (Value × List Char)) (t : Table)
    (rules : List Rule) :
    List Char → List Char → Except Error (Table × List Char)
  | [], _ => .error .invalid
  | _ :: fuel, cs => do
    let ((p, v), cs) ← pathWithValue value (skipSpace cs)
    if restricted rules p .closed then .error .invalid
    else
      let (parent, n) := splitLast p
      let t ← changeAt false (define n v) parent t
      match skipSpace cs with
      | '\x7d' :: rest => .ok (t, rest)
      | ',' :: rest =>
        let rules := if v.isContainer then ⟨p, .closed, true⟩ :: rules else rules
        tableEntries value t rules fuel rest
      | _ => .error .invalid

/-- The frames that a value takes which starts with a character, as long as the values in it are
read. -/
def framesOf (c : Char) : Nat :=
  if c = '[' then 2
  else if c = '\x7b' then 3
  else 0

/-- A value, with a number of frames for the values that hold values. -/
def value : Nat → List Char → Except Error (Value × List Char)
  | frames + 2, '[' :: rest =>
    (listItems (value frames) [] ('[' :: rest) rest).map fun (items, rest) => (.array items, rest)
  | _, '[' :: _ => .error .tooDeep
  | frames + 3, '\x7b' :: rest =>
    match skipSpace rest with
    | '\x7d' :: rest => .ok (.table [], rest)
    | entries =>
      (tableEntries (value frames) [] [] ('\x7b' :: rest) entries).map fun (t, rest) =>
        (.table t, rest)
  | _, '\x7b' :: _ => .error .tooDeep
  | _, '"' :: rest => (quotedText ('"' :: rest)).map fun (s, rest) => (.string s, rest)
  | _, '\x27' :: rest => (quotedText ('\x27' :: rest)).map fun (s, rest) => (.string s, rest)
  | _, cs => plainValue cs

/-! ## Statements -/

/-- What was read so far. -/
structure Document where
  /-- All names with their values. -/
  data : Table := []
  /-- What may no longer be said. -/
  rules : List Rule := []
  /-- Paths that get no header once the next header is read. -/
  passed : List (List String) := []
  /-- The path of the last header. -/
  header : List String := []

/-- The document before a header: the paths that were passed through are declared now. -/
def Document.settled (d : Document) : Document :=
  { d with rules := d.passed.map (⟨·, .declared, false⟩) ++ d.rules, passed := [] }

/-- The header of a table, behind its bracket. -/
def tableHeader (d : Document) (cs : List Char) : Except Error (Document × List Char) := do
  let (p, cs) ← path (skipSpace cs)
  if restricted d.rules p .declared || restricted d.rules p .closed then .error .invalid
  else
    let data ← changeAt true .ok p d.data
    match cs with
    | ']' :: rest =>
      .ok ({ d with data, rules := ⟨p, .declared, false⟩ :: d.rules, header := p }, rest)
    | _ => .error .invalid

/-- The header of the next table of a list, behind its brackets. What was said of the table before
it does not bind the new one. -/
def listHeader (d : Document) (cs : List Char) : Except Error (Document × List Char) := do
  let (p, cs) ← path (skipSpace cs)
  if restricted d.rules p .closed then .error .invalid
  else
    let rules := ⟨p, .declared, false⟩ :: released d.rules p
    let (parent, n) := splitLast p
    let data ← changeAt true (addToList n) parent d.data
    match cs with
    | ']' :: ']' :: rest => .ok ({ d with data, rules, header := p }, rest)
    | _ => .error .invalid

/-- A name with its value. -/
def assignment (frames : Nat) (d : Document) (cs : List Char) :
    Except Error (Document × List Char) := do
  let ((p, v), cs) ← pathWithValue (value frames) cs
  let (parent, n) := splitLast p
  let through := (List.range (p.length - 1)).map fun i => d.header ++ p.take (i + 1)
  if through.any (restricted d.rules · .declared) then .error .invalid
  else if restricted d.rules (d.header ++ parent) .closed then .error .invalid
  else
    let data ← changeAt true (define n v) (d.header ++ parent) d.data
    let rules := if v.isContainer then ⟨d.header ++ p, .closed, true⟩ :: d.rules else d.rules
    .ok ({ d with data, rules, passed := through ++ d.passed }, cs)

/-- One statement at the beginning of a line that is neither blank nor a comment. -/
def statement (frames : Nat) (d : Document) (cs : List Char) :
    Except Error (Document × List Char) :=
  match cs with
  | '[' :: '[' :: rest => listHeader d.settled rest
  | '[' :: rest => tableHeader d.settled rest
  | _ => assignment frames d cs

/-- Read statements to the end. The first list only bounds the loop. -/
def statements (frames : Nat) (d : Document) : List Char → List Char → Except Error Document
  | [], _ => .ok d
  | _ :: fuel, cs => do
    let cs := skipSpace cs
    match cs with
    | [] => .ok d
    | '\n' :: rest => statements frames d fuel rest
    | c :: _ =>
      let (d, cs) ← if c = '#' then .ok (d, cs) else statement frames d cs
      match ← skipComment (skipSpace cs) with
      | [] => .ok d
      | '\n' :: rest => statements frames d fuel rest
      | _ => .error .invalid

/-- The table that a document writes, with a number of frames for reading. Its lines end with line
feeds. -/
def read (frames : Nat) (cs : List Char) : Except Error Table :=
  (statements frames {} (' ' :: cs) cs).map Document.data

end Calculator.Toml
