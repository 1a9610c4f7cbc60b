import Calculator.Number.Integer
import Calculator.Text.Hexadecimal
import Calculator.Text.Newline
import Calculator.Text.Pieces

/-!
# Literals

A literal is a value that is written out: a number, a text in quotes, one of the words `None`,
`True` and `False`, three dots, or a group of literals. A group is a tuple in parentheses, which may
also be left out around the whole, a set or a table of pairs in braces, or the empty set, written
`set()`. A number may have a sign, and a real number may have an imaginary one added to it or taken
from it.

`isLiteral` says whether a text is a literal. The text is first cut into tokens; these are then read
one by one with a stack of the groups that are open.
-/

namespace Calculator.Terminal

/-! ## Numbers -/

/-- Whether digits are divided by single underscores only, with a digit first and last. -/
def isDigitGroup (isDigit : Char → Bool) (cs : List Char) : Bool :=
  cs.head?.any isDigit && cs.getLast?.any isDigit && Number.singlyDivided cs &&
    cs.all fun c => isDigit c || c = '_'

/-- The test for the digits of a base, by the letter that announces the base. -/
def digitTest? (letter : Char) : Option (Char → Bool) :=
  match letter.toLower with
  | 'x' => some fun c => (Text.hexValue? c).isSome
  | 'o' => some fun c => decide ('0' ≤ c ∧ c ≤ '7')
  | 'b' => some fun c => c = '0' || c = '1'
  | _ => none

/-- Whether characters are a group of decimal digits. -/
def isDecimalGroup (cs : List Char) : Bool := isDigitGroup Char.isDigit cs

/-- Whether characters are digits with a point among them. -/
def isPointed (cs : List Char) : Bool :=
  match cs.span fun c => c ≠ '.' with
  | (whole, _ :: places) =>
    (whole.isEmpty || isDecimalGroup whole) && (places.isEmpty || isDecimalGroup places) &&
      !(whole.isEmpty && places.isEmpty)
  | (_, []) => false

/-- Whether characters are an exponent without its letter. -/
def isExponent (cs : List Char) : Bool := isDecimalGroup (Number.signAndRest cs).2

/-- Whether characters are a number with a point or an exponent. -/
def isFraction (cs : List Char) : Bool :=
  match cs.span fun c => c ≠ 'e' && c ≠ 'E' with
  | (mantissa, _ :: exponent) =>
    (isDecimalGroup mantissa || isPointed mantissa) && isExponent exponent
  | (mantissa, []) => isPointed mantissa

/-- Whether characters are an integer. Only zero may start with a zero. -/
def isWhole (cs : List Char) : Bool :=
  isDecimalGroup cs && (cs.head? ≠ some '0' || cs.all fun c => c = '0' || c = '_')

/-- Whether characters are a number, and then whether it is imaginary. -/
def numberKind? (cs : List Char) : Option Bool :=
  match cs with
  | '0' :: letter :: ds =>
    match digitTest? letter with
    | some isDigit =>
      let digits := if ds.head? = some '_' then ds.drop 1 else ds
      if isDigitGroup isDigit digits then some false else none
    | none => decimalKind? cs
  | _ => decimalKind? cs
where
  /-- The kind of a number in base ten. -/
  decimalKind? (cs : List Char) : Option Bool :=
    if cs.getLast? = some 'j' || cs.getLast? = some 'J' then
      if isDecimalGroup cs.dropLast || isFraction cs.dropLast then some true else none
    else if isWhole cs || isFraction cs then some false
    else none

/-- Whether a character can stand in a word. -/
def isWordChar (c : Char) : Bool := c.isAlphanum || c = '_' || decide (128 ≤ c.toNat)

/-- The characters up to the end of a number, and the rest. A sign belongs to a number in base ten
if it stands behind the letter of the exponent. -/
def numberSpan (decimal : Bool) : List Char → List Char × List Char
  | [] => ([], [])
  | c :: cs =>
    if !(isWordChar c || c = '.') then ([], c :: cs)
    else
      match cs with
      | [] => ([c], [])
      | d :: rest =>
        if decimal && (c = 'e' || c = 'E') && (d = '+' || d = '-') then
          let (taken, left) := numberSpan decimal rest
          (c :: d :: taken, left)
        else
          let (taken, left) := numberSpan decimal (d :: rest)
          (c :: taken, left)

/-! ## Texts -/

/-- What stands in front of a closing quote in one line, and the rest behind the quote. -/
def shortText? (quote : Char) : List Char → Option (List Char × List Char)
  | [] => none
  | c :: cs =>
    if c = quote then some ([], cs)
    else if c = '\n' then none
    else if c = '\\' then
      match cs with
      | [] => none
      | d :: rest => (shortText? quote rest).map fun (body, left) => (c :: d :: body, left)
    else (shortText? quote cs).map fun (body, left) => (c :: body, left)

/-- What stands in front of three closing quotes, and the rest behind them. -/
def longText? (quote : Char) : List Char → Option (List Char × List Char)
  | [] => none
  | c :: cs =>
    if [quote, quote, quote].isPrefixOf (c :: cs) then some ([], cs.drop 2)
    else if c = '\\' then
      match cs with
      | [] => none
      | d :: rest => (longText? quote rest).map fun (body, left) => (c :: d :: body, left)
    else (longText? quote cs).map fun (body, left) => (c :: body, left)

/-- What stands between quotes, and the rest, behind an opening quote. -/
def quoted? (quote : Char) (cs : List Char) : Option (List Char × List Char) :=
  if [quote, quote].isPrefixOf cs then longText? quote (cs.drop 2) else shortText? quote cs

/-- Whether a text starts with a code point of `digits` hexadecimal digits. -/
def startsWithCode (digits : Nat) (cs : List Char) : Bool :=
  match (cs.take digits).mapM Text.hexValue? with
  | some vs => decide (vs.length = digits ∧ vs.foldl (fun n v => n * 16 + v) 0 < 0x110000)
  | none => false

/-- Whether a text starts with what may be the name of a character in braces. -/
def startsWithName : List Char → Bool
  | '\x7b' :: cs =>
    match cs.span fun c => c ≠ '\x7d' with
    | (name, _ :: _) => !name.isEmpty && name.all fun c => c.isAlphanum || c = ' ' || c = '-'
    | (_, []) => false
  | _ => false

/-- Whether what stands behind each backslash is complete. In a text of bytes only the code of a
byte has more than one character. -/
def areEscapesComplete (bytes : Bool) : List Char → Bool
  | [] => true
  | '\\' :: c :: cs =>
    (match c with
      | 'x' => startsWithCode 2 cs
      | 'u' => bytes || startsWithCode 4 cs
      | 'U' => bytes || startsWithCode 8 cs
      | 'N' => bytes || startsWithName cs
      | _ => true) && areEscapesComplete bytes cs
  | _ :: cs => areEscapesComplete bytes cs

/-- How a text in quotes is meant. -/
structure TextKind where
  bytes : Bool
  raw : Bool

/-- The kind of a text by the letters in front of its opening quote. -/
def textKind? (letters : List Char) : Option TextKind :=
  match letters.map Char.toLower with
  | [] => some ⟨false, false⟩
  | ['u'] => some ⟨false, false⟩
  | ['r'] => some ⟨false, true⟩
  | ['b'] => some ⟨true, false⟩
  | ['b', 'r'] => some ⟨true, true⟩
  | ['r', 'b'] => some ⟨true, true⟩
  | _ => none

/-- Whether a text may stand between the quotes of a kind. -/
def TextKind.admits (kind : TextKind) (body : List Char) : Bool :=
  (!kind.bytes || body.all fun c => decide (c.toNat < 128)) &&
    (kind.raw || areEscapesComplete kind.bytes body)

/-! ## Tokens -/

/-- A part of a literal. -/
inductive LiteralToken where
  | number (imaginary : Bool)
  | text (bytes : Bool)
  /-- A word that is a value, or three dots. -/
  | constant
  /-- The word in front of the parentheses of the empty set. -/
  | setWord
  /-- A bracket, a comma, a colon or a sign. -/
  | mark (c : Char)
  | lineEnd
deriving DecidableEq, Repr

/-- The token that a word is. -/
def wordToken? (word : List Char) : Option LiteralToken :=
  if ["None", "True", "False"].contains (String.ofList word) then some .constant
  else if word = "set".toList then some .setWord
  else none

/-- The token that starts with a character other than white space, and the rest. -/
def literalToken? (c : Char) (cs : List Char) : Option (LiteralToken × List Char) :=
  if c.isDigit || (c = '.' && cs.head?.any Char.isDigit) then
    let decimal := c ≠ '0' || (cs.head?.bind digitTest?).isNone
    let (digits, rest) := numberSpan decimal (c :: cs)
    (numberKind? digits).map fun imaginary => (.number imaginary, rest)
  else if "...".toList.isPrefixOf (c :: cs) then some (.constant, cs.drop 2)
  else if "(),:+-\x7b\x7d".toList.contains c then some (.mark c, cs)
  else
    match (c :: cs).span isWordChar with
    | (word, []) => (wordToken? word).map fun t => (t, [])
    | (word, d :: rest) =>
      if d = '\'' || d = '"' then
        match textKind? word, quoted? d rest with
        | some kind, some (body, rest) =>
          if kind.admits body then some (.text kind.bytes, rest) else none
        | _, _ => none
      else (wordToken? word).map fun t => (t, d :: rest)

/-- Whether a character is skipped between tokens. -/
def isSkipped (c : Char) : Bool := c = ' ' || c = '\t' || c = '\x0c'

/-- The tokens of a text, of which at most `fuel` are read. A backslash at the end of a line draws
the next line to it, and what stands behind a number sign is a comment. -/
def literalTokens? : Nat → List Char → Option (List LiteralToken)
  | _, [] => some []
  | 0, _ => none
  | fuel + 1, c :: cs =>
    if isSkipped c then literalTokens? fuel cs
    else if c = '\n' then (literalTokens? fuel cs).map (.lineEnd :: ·)
    else if c = '#' then literalTokens? fuel (cs.dropWhile (· ≠ '\n'))
    else if c = '\\' then
      match cs with
      | '\n' :: d :: rest => literalTokens? fuel (d :: rest)
      | _ => none
    else
      match literalToken? c cs with
      | some (token, rest) => (literalTokens? fuel rest).map (token :: ·)
      | none => none

/-! ## Groups -/

/-- What a part of a literal is. -/
inductive Shape where
  | number (imaginary : Bool)
  | signed (imaginary : Bool)
  | text (bytes : Bool)
  | setWord
  /-- Any other value. Only a fixed value can be an element of a set or the first of a pair. -/
  | value (fixed : Bool)
deriving DecidableEq, Repr

/-- Whether a part is a fixed value, if it is a value. -/
def Shape.fixed? : Shape → Option Bool
  | setWord => none
  | value fixed => some fixed
  | _ => some true

/-- A part as it is seen from outside its parentheses. -/
def Shape.inParentheses : Shape → Shape
  | text _ => value true
  | shape => shape

/-- What is read of the next element of a group. -/
inductive Element where
  | nothing
  | sign
  | part (shape : Shape)
  /-- A real number and a sign, behind which an imaginary number is missing. -/
  | sum
deriving DecidableEq, Repr

/-- An element with another part behind it. Texts behind one another are one text. -/
def Element.add : Element → Shape → Option Element
  | nothing, shape => some (part shape)
  | sign, .number imaginary => some (part (.signed imaginary))
  | sum, .number true => some (part (.value true))
  | part (.text a), .text b => if a = b then some (part (.text a)) else none
  | _, _ => none

/-- An element with a sign behind it. -/
def Element.addSign : Element → Option Element
  | nothing => some sign
  | part (.number false) => some sum
  | part (.signed false) => some sum
  | _ => none

/-- Whether an element is a fixed value, if it is complete. -/
def Element.fixed? : Element → Option Bool
  | part shape => shape.fixed?
  | _ => none

/-- The kinds of groups. -/
inductive GroupKind where
  /-- The whole literal. -/
  | outermost
  | parentheses
  /-- The parentheses of the empty set. -/
  | call
  | braces
deriving DecidableEq, Repr

/-- A group that is open. -/
structure Group where
  kind : GroupKind
  /-- Whether an element is complete. -/
  started : Bool := false
  /-- Whether all complete elements are fixed values. -/
  fixed : Bool := true
  /-- Whether the complete elements are pairs. -/
  paired : Bool := false
  /-- Whether the first of a pair is complete and its second is being read. -/
  second : Bool := false
  element : Element := .nothing
deriving DecidableEq, Repr

namespace Group

/-- A group with its element complete. In braces there are either pairs or fixed values. -/
def finishElement (g : Group) : Option Group :=
  match g.element.fixed?, g.kind with
  | none, _ => none
  | some fixed, .braces =>
    if (g.started && g.paired ≠ g.second) || !(g.second || fixed) then none
    else some { g with started := true, paired := g.second, second := false, element := .nothing }
  | some fixed, _ =>
    some { g with started := true, fixed := g.fixed && fixed, element := .nothing }

/-- A group in braces with a colon behind the first of a pair. -/
def addColon (g : Group) : Option Group :=
  if g.kind = .braces && !g.second && g.element.fixed? = some true then
    some { g with second := true, element := .nothing }
  else none

/-- What a closed group is. -/
def close (g : Group) : Option Shape :=
  match g.kind, g.element with
  | .outermost, _ => none
  | .call, .nothing => if g.started then none else some (.value false)
  | .call, _ => none
  | .parentheses, .nothing => some (.value g.fixed)
  | .parentheses, .part shape =>
    if g.started then shape.fixed?.map fun fixed => .value (g.fixed && fixed)
    else some shape.inParentheses
  | .parentheses, _ => none
  | .braces, .nothing => if g.second then none else some (.value false)
  | .braces, _ => g.finishElement.map fun _ => .value false

end Group

/-- How many groups may be open. -/
def maxOpenGroups : Nat := 200

/-- The open groups, the innermost first, after an opening bracket. -/
def openGroup (kind : GroupKind) (g : Group) (outer : List Group) : Option (List Group) :=
  if maxOpenGroups ≤ outer.length then none
  else
    match g.element with
    | .part .setWord =>
      if kind = .parentheses then
        some ({ kind := .call } :: { g with element := .nothing } :: outer)
      else none
    | .part _ => none
    | _ => some ({ kind } :: g :: outer)

/-- The open groups after a closing bracket. -/
def closeGroup (brace : Bool) (g : Group) : List Group → Option (List Group)
  | [] => none
  | next :: outer =>
    if (g.kind = .braces) ≠ brace then none
    else
      match g.close with
      | some shape => (next.element.add shape).map fun element => { next with element } :: outer
      | none => none

/-- The open groups after a token. -/
def afterToken (token : LiteralToken) (g : Group) (outer : List Group) : Option (List Group) :=
  let within (g : Option Group) := g.map (· :: outer)
  let part (shape : Shape) := within ((g.element.add shape).map fun element => { g with element })
  match token with
  | .number imaginary => part (.number imaginary)
  | .text bytes => part (.text bytes)
  | .constant => part (.value true)
  | .setWord => part .setWord
  | .lineEnd => some (g :: outer)
  | .mark c =>
    if c = '+' || c = '-' then within (g.element.addSign.map fun element => { g with element })
    else if c = ',' then within g.finishElement
    else if c = ':' then within g.addColon
    else if c = '(' then openGroup .parentheses g outer
    else if c = '\x7b' then openGroup .braces g outer
    else closeGroup (c = '\x7d') g outer

/-- Whether the open groups are one complete literal: all brackets are closed, and the whole has an
element that is complete. -/
def isComplete : List Group → Bool
  | [g] => if g.element = .nothing then g.started else g.element.fixed?.isSome
  | _ => false

/-- Whether tokens complete the open groups to one literal. A line end outside of brackets must be
the end. -/
def completes : List Group → List LiteralToken → Bool
  | groups, [] => isComplete groups
  | [], _ => false
  | g :: outer, token :: tokens =>
    if token = .lineEnd && outer.isEmpty then tokens.all (· = .lineEnd) && isComplete [g]
    else
      match afterToken token g outer with
      | some groups => completes groups tokens
      | none => false

/-- Whether a line holds nothing but a comment or a backslash at its end. -/
def isIdleLine (line : List Char) : Bool :=
  match line.dropWhile isSkipped with
  | [] => true
  | c :: cs => c = '#' || (c = '\\' && cs.isEmpty)

/-- Whether a line starts at the margin. A form feed goes back to it. -/
def isAtMargin (line : List Char) : Bool :=
  (line.takeWhile isSkipped).getLast?.all (· = '\x0c')

/-- Whether a text is a literal. -/
def isLiteral (cs : List Char) : Bool :=
  match (Text.piecesAt '\n' (Text.lineFeeds cs)).dropWhile isIdleLine with
  | [] => false
  | line :: lines =>
    let body := line ++ lines.flatMap ('\n' :: ·)
    isAtMargin line &&
      (literalTokens? body.length body).any (completes [{ kind := .outermost }])

end Calculator.Terminal
