import Calculator.Toml.Value

/-!
# Texts, numbers, days and times

The values of a document that hold no other values. Each reader takes the characters that belong to
its value and gives back the rest. A reader that returns an option says by `none` that its kind of
value does not stand here; one that returns an error has found the value spoilt.
-/

namespace Calculator.Toml

/-- Why a text is no document. -/
inductive Error where
  /-- The rules of the format are broken. -/
  | invalid
  /-- Lists and tables are nested too deeply. -/
  | tooDeep
  /-- A whole number in base ten has more digits than can be read. -/
  | integerTooLong (digits : Nat)
deriving DecidableEq, Repr

/-- Whether a character is a space or a tab. -/
def isSpace (c : Char) : Bool := c = ' ' || c = '\t'

/-- Whether a character is a space, a tab or a line feed. -/
def isSpaceOrLine (c : Char) : Bool := isSpace c || c = '\n'

/-- The rest behind spaces and tabs. -/
def skipSpace (cs : List Char) : List Char := cs.dropWhile isSpace

/-- Whether a character must not stand in a line: a control character other than the tab. -/
def spoilsLine (c : Char) : Bool := (decide (c.toNat < 32) || c.toNat = 127) && c ≠ '\t'

/-- Whether a character must not stand in a text of several lines. -/
def spoilsLines (c : Char) : Bool := spoilsLine c && c ≠ '\n'

/-- The rest behind a comment, if there is one: it goes to the end of the line. -/
def skipComment : List Char → Except Error (List Char)
  | '#' :: cs =>
    let (body, rest) := cs.span fun c => c ≠ '\n'
    if body.any spoilsLine then .error .invalid else .ok rest
  | cs => .ok cs

/-! ## Texts -/

/-- A text between apostrophes, which is taken as it is. -/
def literalText (cs : List Char) : Except Error (String × List Char) :=
  let (body, rest) := cs.span fun c => c ≠ Text.apostrophe
  match rest with
  | _ :: rest => if body.any spoilsLine then .error .invalid else .ok (String.ofList body, rest)
  | [] => .error .invalid

/-- The characters before three quotes in a row, in reverse order on top of `done`, and the rest
behind the quotes. -/
def untilTriple (q : Char) (done : List Char) : List Char → Except Error (List Char × List Char)
  | [] => .error .invalid
  | c :: cs =>
    match cs with
    | d :: e :: rest =>
      if c = q ∧ d = q ∧ e = q then .ok (done, rest) else untilTriple q (c :: done) cs
    | _ => .error .invalid

/-- The character that a short escape stands for. -/
def shortEscape? : Char → Option Char
  | 'b' => some '\x08'
  | 't' => some '\t'
  | 'n' => some '\n'
  | 'f' => some '\x0c'
  | 'r' => some '\r'
  | '"' => some '"'
  | '\\' => some '\\'
  | _ => none

/-- What a backslash at the end of a line leaves out: first the blanks up to the end of the line,
then all blanks and line ends. -/
inductive Trim where
  | nothing
  | toLineEnd
  | toText
deriving DecidableEq, Repr

/-- The body of a text between double quotes, in reverse order on top of `done`, and the rest behind
the closing quotes: one, or three if the text may have several lines. -/
def basicText (lines : Bool) (trim : Trim) (done : List Char) :
    List Char → Except Error (List Char × List Char)
  | [] => .error .invalid
  | c :: cs =>
    if trim = .toLineEnd then
      if isSpace c then basicText lines .toLineEnd done cs
      else if c = '\n' then basicText lines .toText done cs
      else .error .invalid
    else if trim = .toText && isSpaceOrLine c then basicText lines .toText done cs
    else if c = '"' then
      if !lines then .ok (done, cs)
      else
        match cs with
        | '"' :: '"' :: rest => .ok (done, rest)
        | _ => basicText lines .nothing (c :: done) cs
    else if c = '\\' then
      match cs with
      | [] => .error .invalid
      | 'u' :: d₁ :: d₂ :: d₃ :: d₄ :: rest =>
        match Text.hexChar? [d₁, d₂, d₃, d₄] with
        | some e => basicText lines .nothing (e :: done) rest
        | none => .error .invalid
      | 'U' :: d₁ :: d₂ :: d₃ :: d₄ :: d₅ :: d₆ :: d₇ :: d₈ :: rest =>
        match Text.hexChar? [d₁, d₂, d₃, d₄, d₅, d₆, d₇, d₈] with
        | some e => basicText lines .nothing (e :: done) rest
        | none => .error .invalid
      | e :: rest =>
        if lines && e = '\n' then basicText lines .toText done rest
        else if lines && isSpace e then basicText lines .toLineEnd done rest
        else
          match shortEscape? e with
          | some e => basicText lines .nothing (e :: done) rest
          | none => .error .invalid
    else if (if lines then spoilsLines c else spoilsLine c) then .error .invalid
    else basicText lines .nothing (c :: done) cs

/-- Up to two more quotes that stand directly behind the closing three belong to the text. -/
def extraQuotes (q : Char) (done : List Char) : List Char → String × List Char
  | c :: cs =>
    if c ≠ q then (String.ofList done.reverse, c :: cs)
    else
      match cs with
      | d :: rest =>
        if d = q then (String.ofList (q :: q :: done).reverse, rest)
        else (String.ofList (q :: done).reverse, cs)
      | [] => (String.ofList (q :: done).reverse, [])
  | [] => (String.ofList done.reverse, [])

/-- The rest behind a line feed, if there is one. -/
def skipLineFeed : List Char → List Char
  | '\n' :: cs => cs
  | cs => cs

/-- A text that starts with a quote, of any of the four forms. -/
def quotedText (cs : List Char) : Except Error (String × List Char) :=
  match cs with
  | '"' :: '"' :: '"' :: rest =>
    match basicText true .nothing [] (skipLineFeed rest) with
    | .error e => .error e
    | .ok (done, rest) => .ok (extraQuotes '"' done rest)
  | '"' :: rest =>
    match basicText false .nothing [] rest with
    | .error e => .error e
    | .ok (done, rest) => .ok (String.ofList done.reverse, rest)
  | '\x27' :: '\x27' :: '\x27' :: rest =>
    match untilTriple Text.apostrophe [] (skipLineFeed rest) with
    | .error e => .error e
    | .ok (done, rest) =>
      if done.any spoilsLines then .error .invalid else .ok (extraQuotes Text.apostrophe done rest)
  | '\x27' :: rest => literalText rest
  | _ => .error .invalid

/-! ## Days and times -/

/-- Two digits, as a number within bounds. -/
def twoDigits? (low high : Nat) : List Char → Option (Nat × List Char)
  | a :: b :: rest =>
    let n := Number.valueOfDigits [a, b]
    if a.isDigit ∧ b.isDigit ∧ low ≤ n ∧ n ≤ high then some (n, rest) else none
  | _ => none

/-- The rest behind a character. -/
def after? (c : Char) : List Char → Option (List Char)
  | d :: rest => if c = d then some rest else none
  | [] => none

/-- A day, written as year, month and day with dashes. -/
def date? : List Char → Option (Date × List Char)
  | a :: b :: c :: d :: rest =>
    if [a, b, c, d].all Char.isDigit then do
      let year := Number.valueOfDigits [a, b, c, d]
      let (month, rest) ← twoDigits? 1 12 (← after? '-' rest)
      let (day, rest) ← twoDigits? 1 31 (← after? '-' rest)
      some (⟨year, month, day⟩, rest)
    else none
  | _ => none

/-- A fraction of a second in microseconds; further digits are dropped. -/
def micro (cs : List Char) : Nat × List Char :=
  match cs with
  | '.' :: more =>
    let (ds, rest) := more.span Char.isDigit
    if ds.isEmpty then (0, cs)
    else
      let kept := ds.take 6
      (Number.valueOfDigits (kept ++ List.replicate (6 - kept.length) '0'), rest)
  | _ => (0, cs)

/-- A time, written as hour, minute and second with colons. -/
def time? (cs : List Char) : Option (Time × List Char) := do
  let (hour, rest) ← twoDigits? 0 23 cs
  let (minute, rest) ← twoDigits? 0 59 (← after? ':' rest)
  let (second, rest) ← twoDigits? 0 59 (← after? ':' rest)
  let (micro, rest) := micro rest
  some (⟨hour, minute, second, micro⟩, rest)

/-- The offset of a moment in minutes: the letter for none, or a sign with hours and minutes. -/
def offset? (cs : List Char) : Option (Int × List Char) :=
  match cs with
  | 'Z' :: rest => some (0, rest)
  | 'z' :: rest => some (0, rest)
  | c :: rest =>
    if c = '+' ∨ c = '-' then do
      let (hours, rest) ← twoDigits? 0 23 rest
      let (minutes, rest) ← twoDigits? 0 59 (← after? ':' rest)
      let n : Int := hours * 60 + minutes
      some (if c = '-' then -n else n, rest)
    else none
  | [] => none

/-- The number of days of a month. -/
def daysOf (year month : Nat) : Nat :=
  if month = 2 then
    if year % 4 = 0 ∧ (year % 100 ≠ 0 ∨ year % 400 = 0) then 29 else 28
  else if month = 4 ∨ month = 6 ∨ month = 9 ∨ month = 11 then 30
  else 31

/-- Whether the calendar has a day. It starts with the year one. -/
def Date.exists (d : Date) : Bool := decide (1 ≤ d.year ∧ d.day ≤ daysOf d.year d.month)

/-- A moment behind its day: the time, divided by a letter or a space, and perhaps an offset. -/
def timeBehindDate? : List Char → Option ((Time × Option Int) × List Char)
  | c :: rest =>
    if c = 'T' ∨ c = 't' ∨ c = ' ' then
      match time? rest with
      | none => none
      | some (t, rest) =>
        match offset? rest with
        | some (n, rest) => some ((t, some n), rest)
        | none => some ((t, none), rest)
    else none
  | [] => none

/-- A day, perhaps with a time. -/
def dateOrMoment? (cs : List Char) : Option (Except Error (Value × List Char)) :=
  match date? cs with
  | none => none
  | some (d, rest) =>
    let result :=
      match timeBehindDate? rest with
      | some ((t, offset), rest) => (Value.moment d t offset, rest)
      | none => (Value.date d, rest)
    some (if d.exists then .ok result else .error .invalid)

/-! ## Numbers -/

/-- Digits of a kind, with single underscores between them, in reverse order on top of `done`. -/
def digitsOnto (p : Char → Bool) (done : List Char) : List Char → List Char × List Char
  | '_' :: c :: cs => if p c then digitsOnto p (c :: done) cs else (done, '_' :: c :: cs)
  | c :: cs => if p c then digitsOnto p (c :: done) cs else (done, c :: cs)
  | [] => (done, [])

/-- Digits of a kind, with single underscores between them; none if the first is no digit. -/
def digits? (p : Char → Bool) : List Char → Option (List Char × List Char)
  | c :: cs =>
    if p c then
      let (done, rest) := digitsOnto p [c] cs
      some (done.reverse, rest)
    else none
  | [] => none

/-- A whole number in the base that its second character names. -/
def basedInteger? : List Char → Option (Int × List Char)
  | '0' :: mark :: rest =>
    let base := if mark = 'x' then 16 else if mark = 'o' then 8 else if mark = 'b' then 2 else 0
    let isDigit := fun c => (Text.hexValue? c).any fun v => decide (v < base)
    match digits? isDigit rest with
    | none => none
    | some (ds, rest) => some (ds.foldl (fun n c => n * base + (Text.hexValue? c).getD 0) 0, rest)
  | _ => none

/-- The whole part of a number: zero, or digits that start with another one. -/
def wholePart? (cs : List Char) : Option (List Char × List Char) :=
  match cs with
  | '0' :: rest => some (['0'], rest)
  | _ => digits? Char.isDigit cs

/-- The places of a number: a point and at least one digit. -/
def places (cs : List Char) : List Char × List Char :=
  match cs with
  | '.' :: more =>
    match digits? Char.isDigit more with
    | some (ds, rest) => ('.' :: ds, rest)
    | none => ([], cs)
  | _ => ([], cs)

/-- The exponent of a number: its mark, perhaps a sign, and at least one digit. -/
def powerOfTen (cs : List Char) : List Char × List Char :=
  match cs with
  | c :: more =>
    if Decimal.isExponentMark c then
      let (sign, more) :=
        match more with
        | '+' :: more => (['+'], more)
        | '-' :: more => (['-'], more)
        | more => ([], more)
      match digits? Char.isDigit more with
      | some (ds, rest) => (c :: sign ++ ds, rest)
      | none => ([], cs)
    else ([], cs)
  | [] => ([], cs)

/-- The sign of a number, and the characters behind it. -/
def signOf : List Char → Bool × List Char
  | '-' :: rest => (true, rest)
  | '+' :: rest => (false, rest)
  | cs => (false, cs)

/-- A number with its sign. -/
def signedFloat (negative : Bool) (x : Binary64) : Binary64 := if negative then x.neg else x

/-- Positive infinity. -/
def infinity : Binary64 := .ofWord Binary64.infinityWord

/-- A whole number in base ten, which may not be too long, or a number with places or an exponent.
One of these that is too large becomes infinite. -/
def decimalNumber? (cs : List Char) : Option (Except Error (Value × List Char)) :=
  let (negative, more) := signOf cs
  match wholePart? more with
  | none => none
  | some (whole, rest) =>
    let (fraction, rest) := places rest
    let (power, rest) := powerOfTen rest
    if fraction.isEmpty && power.isEmpty then
      let n : Int := Number.valueOfDigits whole
      some (if Number.maxDigits < whole.length then .error (.integerTooLong whole.length)
        else .ok (.integer (if negative then -n else n), rest))
    else
      match Decimal.ofChars? (whole ++ fraction ++ power) with
      | none => none
      | some d => some (.ok (.float (signedFloat negative (d.toBinary64?.getD infinity)), rest))

/-- Infinity or the undefined number, by name and perhaps with a sign. -/
def namedNumber? (cs : List Char) : Option (Value × List Char) :=
  let (negative, more) := signOf cs
  match more with
  | 'i' :: 'n' :: 'f' :: rest => some (.float (signedFloat negative infinity), rest)
  | 'n' :: 'a' :: 'n' :: rest => some (.float (.ofWord (Binary64.infinityWord + 1 <<< 51)), rest)
  | _ => none

/-- A truth value. -/
def boolean? : List Char → Option (Value × List Char)
  | 't' :: 'r' :: 'u' :: 'e' :: rest => some (.boolean true, rest)
  | 'f' :: 'a' :: 'l' :: 's' :: 'e' :: rest => some (.boolean false, rest)
  | _ => none

/-- A value that is no text and holds no other values. Days and times are tried before numbers,
since they start with digits too. -/
def plainValue (cs : List Char) : Except Error (Value × List Char) :=
  match boolean? cs with
  | some r => .ok r
  | none =>
    match dateOrMoment? cs with
    | some r => r
    | none =>
      match time? cs with
      | some (t, rest) => .ok (.time t, rest)
      | none =>
        match basedInteger? cs with
        | some (n, rest) => .ok (.integer n, rest)
        | none =>
          match decimalNumber? cs with
          | some r => r
          | none =>
            match namedNumber? cs with
            | some r => .ok r
            | none => .error .invalid

end Calculator.Toml
