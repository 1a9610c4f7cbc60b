/-!
# Patterns

A pattern describes stretches of text by their characters and by what stands next to them. Where a
pattern fits in several ways there is an order of preference among them: an eager repetition takes
as much as it can, a reluctant one as little, and the first of two alternatives is tried first.
Parts of a pattern may be noted; `Pattern.notes` finds the noted stretches of a whole text.

All ways to fit are listed, the preferred one first, by recursion on the pattern.
-/

namespace Calculator.Text

/-- A description of stretches of text. -/
inductive Pattern where
  /-- One character that passes a test. -/
  | one (test : Char → Bool)
  /-- No character, between a character before and one behind that together pass a test. At the ends
  of the text one of them is missing. -/
  | between (test : Option Char → Option Char → Bool)
  | followed (a b : Pattern)
  | either (a b : Pattern)
  /-- At least `least` and, if there is a bound, at most `most` times the same pattern. -/
  | repeated (least : Nat) (most : Option Nat) (eager : Bool) (a : Pattern)
  /-- A part of which the place is noted. -/
  | noted (a : Pattern)

namespace Pattern

instance : Append Pattern := ⟨followed⟩

instance : OrElse Pattern := ⟨fun a b => either a (b ())⟩

/-- A text, character by character. -/
def word (s : String) : Pattern :=
  s.toList.foldr (fun c p => one (· = c) ++ p) (between fun _ _ => true)

/-- One of the characters of a text. -/
def oneOf (s : String) : Pattern := one fun c => s.toList.contains c

/-- Any number of times, as often as it fits. -/
def zeroOrMore (p : Pattern) : Pattern := repeated 0 none true p

/-- At least once, as often as it fits. -/
def oneOrMore (p : Pattern) : Pattern := repeated 1 none true p

/-- Once or not at all. -/
def optional (p : Pattern) : Pattern := repeated 0 (some 1) true p

/-- From `least` to `most` times. -/
def times (least most : Nat) (p : Pattern) : Pattern := repeated least (some most) true p

/-- Exactly `n` times. -/
def exactly (n : Nat) (p : Pattern) : Pattern := times n n p

end Pattern

/-- A place in a text, with what has been noted on the way to it. -/
structure Cursor where
  position : Nat
  /-- The character before the place. -/
  before : Option Char
  /-- The text behind the place. -/
  rest : List Char
  /-- The first and the last place of each noted part, the last part first. -/
  notes : List (Nat × Nat)

/-- The places to which repetitions of a step lead, the preferred one first, in front of other
places. A step that does not move is not repeated, so `fuel` need not exceed the length of the
rest. -/
def repetitions (step : Cursor → List Cursor) (eager : Bool) :
    Nat → Nat → Option Nat → Cursor → List Cursor → List Cursor
  | 0, least, _, c, others => if least = 0 then c :: others else others
  | fuel + 1, least, most, c, others =>
    let further (others : List Cursor) : List Cursor :=
      if most = some 0 then others
      else
        (step c).foldr
          (fun d others =>
            if d.position = c.position then others
            else repetitions step eager fuel (least - 1) (most.map (· - 1)) d others)
          others
    if 0 < least then further others
    else if eager then further (c :: others)
    else c :: further others

namespace Pattern

/-- The places to which a pattern leads from a place, the preferred one first. -/
def places : Pattern → Cursor → List Cursor
  | one test, c =>
    match c.rest with
    | [] => []
    | x :: rest =>
      if test x then [{ c with position := c.position + 1, before := some x, rest }] else []
  | between test, c => if test c.before c.rest.head? then [c] else []
  | followed a b, c => (a.places c).flatMap b.places
  | either a b, c => a.places c ++ b.places c
  | repeated least most eager a, c => repetitions a.places eager (c.rest.length + 1) least most c []
  | noted a, c =>
    (a.places c).map fun d => { d with notes := (c.position, d.position) :: d.notes }

/-- The stretches that a pattern notes in a text, from the left and one behind the other. The text
starts behind `before` at a position, and `skip` characters of it belong to the last fit. -/
def notesFrom (p : Pattern) (position : Nat) (before : Option Char) (skip : Nat) :
    List Char → List (Nat × Nat)
  | [] => []
  | c :: cs =>
    if 0 < skip then p.notesFrom (position + 1) (some c) (skip - 1) cs
    else
      match (p.places ⟨position, before, c :: cs, []⟩).head? with
      | some d =>
        d.notes ++ p.notesFrom (position + 1) (some c) (d.position - position - 1) cs
      | none => p.notesFrom (position + 1) (some c) 0 cs

/-- The stretches that a pattern notes in a text. -/
def notes (p : Pattern) (cs : List Char) : List (Nat × Nat) := p.notesFrom 0 none 0 cs

end Pattern

end Calculator.Text
