import Calculator.Number.Decimal
import Calculator.Parsing.Builder
import Calculator.Parsing.Cursor

/-!
# The descent

The grammar has four rules:

* an expression is a chain of strength one;
* a chain of strength `p` is a signed operand, followed by operators of strength `p` and above, each
  with a chain of greater strength as its right operand;
* a signed operand is a sign and a signed operand, or a primary;
* a primary is a number, or an expression in parentheses.

Operators of one strength gather from the left. A chain is read by strengths: first all operators of
the strength of the first one, then those one weaker, down to the strength that was asked for.

Each rule that is entered uses up one unit of a budget, which bounds how deeply constructs may be
nested and lets the descent end by recursion on it. A failure that leaves a construct gets a crumb,
which may name the token at which reading stopped.
-/

namespace Calculator

/-- What ends a descent early. -/
inductive Stop where
  /-- The constructs are nested too deeply. -/
  | tooDeep
  /-- A failure, and the token at which reading stopped. -/
  | failed (failure : Failure) (current : Token)
deriving DecidableEq, Repr

/-- What a rule gives: what it built and the cursor behind it. -/
abbrev Step (α : Type) := Except Stop (α × Cursor)

namespace Descent

/-- Leave a crumb on a failure; the crumb may name the token at which reading stopped. -/
def noting {β : Type} (crumb : Token → Crumb) : Except Stop β → Except Stop β
  | .error (.failed f current) => .error (.failed (f.note (crumb current)) current)
  | r => r

/-- Go on behind a step with what it built, unless it stopped. -/
@[inline] def andThen {α β : Type} (r : Step α) (next : α → Cursor → Except Stop β) :
    Except Stop β :=
  match r with
  | .error stop => .error stop
  | .ok (x, c) => next x c

section Steps

variable {α β : Type} {crumb : Token → Crumb} {next : α → Cursor → Except Stop β}

@[simp] theorem noting_ok (x : β) : noting crumb (.ok x) = .ok x := rfl

@[simp] theorem noting_tooDeep :
    noting crumb (.error .tooDeep : Except Stop β) = .error .tooDeep := rfl

@[simp] theorem noting_failed (f : Failure) (current : Token) :
    noting crumb (.error (.failed f current) : Except Stop β) =
      .error (.failed (f.note (crumb current)) current) := rfl

@[simp] theorem andThen_ok (x : α) (c : Cursor) : andThen (.ok (x, c)) next = next x c := rfl

@[simp] theorem andThen_error (stop : Stop) :
    andThen (.error stop) next = .error stop := rfl

theorem noting_eq_ok {r : Except Stop β} {x : β} : noting crumb r = .ok x ↔ r = .ok x := by
  cases r with
  | ok y => rfl
  | error stop => cases stop <;> simp

theorem andThen_eq_ok {r : Step α} {y : β} :
    andThen r next = .ok y ↔ ∃ x c, r = .ok (x, c) ∧ next x c = .ok y := by
  cases r with
  | ok p =>
    obtain ⟨x, c⟩ := p
    constructor
    · intro h
      exact ⟨x, c, rfl, h⟩
    · rintro ⟨x', c', hp, h⟩
      cases hp
      exact h
  | error stop => simp

end Steps

/-- What a builder gave, with the cursor behind it. -/
def built {α : Type} (c : Cursor) : Except Failure α → Step α
  | .ok x => .ok (x, c)
  | .error f => .error (.failed f c.current)

/-- The value of a number token. -/
def numberValue (text : String) : Except Cause Binary64 :=
  match Decimal.ofChars? text.toList with
  | none => .error (.malformed text)
  | some d =>
    match d.toBinary64? with
    | none => .error (.outOfRange text)
    | some x => .ok x

variable {α : Type} (b : Builder α)

/-- Gather operators of one strength, each with the operand that `right` reads. The list `links`
only bounds the loop: it is as long as the tokens that are left. -/
def gather (right : Cursor → Step α) (strength : Nat) : List Token → α → Cursor → Step α
  | [], left, c => .ok (left, c)
  | _ :: links, left, c =>
    match c.current.operator? with
    | none => .ok (left, c)
    | some op =>
      if op.priority = strength then
        andThen (noting (.rightOperand op) (right c.advance)) fun x c' =>
          andThen (built c' (b.binary c'.current op left x)) fun y c' =>
            gather right strength links y c'
      else .ok (left, c)

/-- Gather operators by strengths, from the given one down to `lowest`. -/
def levels (right : Nat → Cursor → Step α) (lowest : Nat) : Nat → α → Cursor → Step α
  | 0, left, c => .ok (left, c)
  | strength + 1, left, c =>
    if strength + 1 < lowest then .ok (left, c)
    else
      andThen (gather b (right (strength + 2)) (strength + 1) c.rest left c) fun x c' =>
        levels right lowest strength x c'

mutual

/-- An expression. -/
def expression : Nat → Cursor → Step α
  | 0, _ => .error .tooDeep
  | budget + 1, c => chain budget 1 c

/-- A chain of the given strength. -/
def chain : Nat → Nat → Cursor → Step α
  | 0, _, _ => .error .tooDeep
  | budget + 1, lowest, c =>
    andThen (noting .firstOperand (signed budget c)) fun left c' =>
      levels b (chain budget) lowest c'.current.priority left c'

/-- A signed operand. -/
def signed : Nat → Cursor → Step α
  | 0, _ => .error .tooDeep
  | budget + 1, c =>
    match c.current.sign? with
    | none => primary budget c
    | some sign =>
      andThen (noting (fun _ => .signedOperand sign c.current.pos) (signed budget c.advance))
        fun x c' => built c' (b.unary c'.current sign x)

/-- A number, or an expression in parentheses. -/
def primary : Nat → Cursor → Step α
  | 0, _ => .error .tooDeep
  | budget + 1, c =>
    let t := c.current
    if t.isNumber then
      match numberValue t.text with
      | .error cause => .error (.failed (.atPos cause t.pos) t)
      | .ok x => .ok (b.literal x, c.advance)
    else if t.isSymbol "(" then
      andThen (noting (fun _ => .group t.pos) (expression budget c.advance)) fun x c' =>
        if c'.current.isSymbol ")" then .ok (x, c'.advance)
        else .error (.failed (.atPos (.unclosed c'.current) c'.current.pos) c'.current)
    else .error (.failed (.atPos (.unexpected t) t.pos) t)

end

/-- How many rules may be open at once. -/
def budget : Nat := 1000

/-- A whole text: an expression and nothing behind it. -/
def wholeText (c : Cursor) : Except Stop α :=
  andThen (noting .wholeText (expression b budget c)) fun x c' =>
    if c'.atEnd then .ok x
    else .error (.failed (.atPos (.unexpected c'.current) c'.current.pos) c'.current)

end Descent

end Calculator
