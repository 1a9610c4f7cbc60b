import Calculator.Terminal.Emoji
import Calculator.Terminal.Literal

/-!
# Markup

A text may hold tags between square brackets. A tag starts with a small letter, a number sign, a
slash or an at sign and reaches to the next closing bracket; it opens a style, and with a slash it
closes one: the style that it names, or the last one that is open. Behind an equals sign a tag may
have parameters, which are part of the style. A tag with an at sign is an action; its parameters are
a name with arguments in parentheses, or arguments alone, and the arguments must be literals.
Backslashes directly in front of a tag are halved, and an odd one takes the tag as text. Brackets
that make no tag are text.

`marked` is what remains to be shown: the text without its tags and with pictures in place of their
names, and the stretches of it that have a style. It fails on a tag that closes what is not open and
on an action with other arguments than literals, if it is closed.
-/

namespace Calculator.Terminal

/-- Why a text is no markup. -/
inductive MarkupError where
  /-- A tag closes a style that is not open. -/
  | notOpen (style : String)
  /-- A tag closes the last open style and there is none. -/
  | nothingOpen
  /-- The arguments of an action are no literal. -/
  | notLiteral
  /-- A style has a color with an empty share. -/
  | emptyShare
deriving DecidableEq, Repr

/-- A part of a marked-up text. -/
inductive Part where
  | text (cs : List Char)
  /-- What stands between the brackets of a tag. -/
  | tag (body : List Char)
deriving DecidableEq, Repr

/-- Whether a tag may start with a character. -/
def startsTag (c : Char) : Bool :=
  ('a' ≤ c && c ≤ 'z') || c = '#' || c = '/' || c = '@'

/-- What stands behind an opening bracket as the body of a tag and the text behind the tag. -/
def tagIn? (piece : List Char) : Option (List Char × List Char) :=
  match piece.span fun c => c ≠ ']' with
  | (body, _ :: rest) => if body.head?.any startsTag then some (body, rest) else none
  | (_, []) => none

/-- A text as a part, if it is not empty. -/
def textPart (cs : List Char) : List Part := if cs.isEmpty then [] else [.text cs]

/-- A tag behind `before`, the text since the tag before it. -/
def partsAt (before body : List Char) : List Part :=
  let slashes := (before.reverse.takeWhile (· = '\\')).length
  textPart (before.take (before.length - slashes)) ++
    textPart (List.replicate (slashes / 2) '\\') ++
    [if slashes % 2 = 1 then .text ('[' :: body ++ [']']) else .tag body]

/-- The parts of a text, where `before` is the text since the last tag and the rest is divided at
its opening brackets. -/
def partsFrom (before : List Char) : List (List Char) → List Part
  | [] => textPart before
  | piece :: more =>
    match tagIn? piece with
    | some (body, rest) => partsAt before body ++ partsFrom rest more
    | none => partsFrom (before ++ '[' :: piece) more

/-- The parts of a marked-up text. -/
def parts (cs : List Char) : List Part :=
  match Text.piecesAt '[' cs with
  | [] => []
  | before :: more => partsFrom before more

/-- A text in which no backslash stands in front of an opening bracket. -/
def unescaped : List Char → List Char
  | '\\' :: '[' :: cs => '[' :: unescaped cs
  | c :: cs => c :: unescaped cs
  | [] => []

/-! ## Tags -/

/-- The name of a tag: what stands in front of an equals sign. -/
def tagName (body : List Char) : List Char := body.takeWhile fun c => c ≠ '='

/-- The parameters of a tag: what stands behind an equals sign. -/
def tagParameters? (body : List Char) : Option (List Char) :=
  match body.dropWhile fun c => c ≠ '=' with
  | [] => none
  | _ :: parameters => some parameters

/-- Whether the parameters of an action are a name, with arguments in parentheses or without, or
arguments alone. Arguments in parentheses stand in one line. -/
def isAction (parameters : List Char) : Bool :=
  let cs := Text.trim Text.isBlank parameters
  match cs.dropWhile fun c => Text.isAlphanumeric c || c = '_' || c = '.' with
  | [] => true
  | c :: more =>
    if c = '(' && more.getLast? = some ')' && !more.contains '\n' then isLiteral (c :: more)
    else isLiteral cs

/-- A tag that is open. -/
structure OpenTag where
  /-- The canonical name of the tag. -/
  name : String
  parameters : Option (List Char)
  /-- How many characters are shown in front of the tag. -/
  start : Nat

/-- The style that a tag asks for. -/
def OpenTag.style (t : OpenTag) : List Char :=
  match t.parameters with
  | none => t.name.toList
  | some parameters => t.name.toList ++ ' ' :: parameters

/-- Whether a tag can be closed: any but an action whose arguments are no literal. -/
def OpenTag.canClose (t : OpenTag) : Bool :=
  t.name.toList.head? ≠ some '@' || t.parameters.all fun ps => ps.isEmpty || isAction ps

/-- A stretch of text that has a style. -/
structure Stretch where
  start : Nat
  /-- The number of characters in front of its end. -/
  stop : Nat
  style : List Char
deriving DecidableEq, Repr

/-- A text with the stretches of it that have a style. -/
structure Marked where
  chars : List Char
  stretches : List Stretch
deriving DecidableEq, Repr

/-- What is known of a marked-up text when some of its parts are read. -/
structure Reading where
  /-- The tags that are open, the last one first. -/
  opened : List OpenTag := []
  stretches : List Stretch := []
  chars : List Char := []

namespace Reading

/-- Close a tag after which some tags are still open. -/
def close (r : Reading) (t : OpenTag) (opened : List OpenTag) : Except MarkupError Reading :=
  if t.canClose then
    .ok { r with opened, stretches := ⟨t.start, r.chars.length, t.style⟩ :: r.stretches }
  else .error .notLiteral

/-- Close the last tag with a name, or the last one of all if no name is given. -/
def closeNamed (r : Reading) (name : List Char) : Except MarkupError Reading :=
  if (Text.trim Text.isBlank name).isEmpty then
    match r.opened with
    | [] => .error .nothingOpen
    | t :: opened => r.close t opened
  else if hasEmptyShare name then .error .emptyShare
  else
    let style := canonicalStyle name
    match r.opened.find? fun t => t.name = style with
    | none => .error (.notOpen style)
    | some t => r.close t (r.opened.eraseP fun t => t.name = style)

/-- What is known after one more part. -/
def step (r : Reading) : Part → Except MarkupError Reading
  | .text cs => .ok { r with chars := r.chars ++ withoutControls (withPictures (unescaped cs)) }
  | .tag body =>
    match tagName body with
    | '/' :: name => r.closeNamed name
    | name =>
      if hasEmptyShare name then .error .emptyShare
      else
        let tag := ⟨canonicalStyle name, tagParameters? body, r.chars.length⟩
        .ok { r with opened := tag :: r.opened }

/-- The text that is read. A tag that is still open reaches to its end. -/
def finish (r : Reading) : Marked :=
  { chars := r.chars
    stretches := r.stretches ++ r.opened.map fun t => ⟨t.start, r.chars.length, t.style⟩ }

end Reading

/-- What remains to be shown of a marked-up text. -/
def marked (s : String) : Except MarkupError Marked :=
  ((parts s.toList).foldlM Reading.step {}).map Reading.finish

end Calculator.Terminal
