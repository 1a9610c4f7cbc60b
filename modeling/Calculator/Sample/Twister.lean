import Calculator.Sample.Draws

/-!
# Draws from a seed

The Mersenne twister: 624 words of 32 bits, renewed all at once whenever they are used up. The words
of the seed are stirred into the initial state. Two outputs make a number below one with 53 bits; a
number below a bound is drawn by taking as many bits as the bound has, again and again until they
lie below it.
-/

namespace Calculator

/-- The state of the generator: its words, and how many of them are used up. -/
structure Twister where
  words : Array UInt32
  used : Nat

namespace Twister

/-- The number of words. -/
def size : Nat := 624

/-- A word, zero beyond the end. -/
def word (words : Array UInt32) (i : Nat) : UInt32 := words.getD i 0

/-- The upper bits of a word stirred into the others. -/
def mixed (w : UInt32) : UInt32 := w ^^^ (w >>> 30)

/-- The words that grow from one. -/
def grown (first : UInt32) : Array UInt32 :=
  Nat.fold (size - 1)
    (fun i _ words => words.push (1812433253 * mixed (word words i) + UInt32.ofNat (i + 1)))
    #[first]

/-- The words while they are stirred, and the index of the next one to change. -/
structure Stirring where
  words : Array UInt32
  index : Nat

/-- Replace the word at the index by what `f` makes of it and of the word before it, and go on. The
first word always repeats the last. -/
def Stirring.step (s : Stirring) (f : UInt32 → UInt32 → UInt32) : Stirring :=
  let new := f (word s.words s.index) (mixed (word s.words (s.index - 1)))
  let words := s.words.setIfInBounds s.index new
  if s.index + 1 < size then ⟨words, s.index + 1⟩
  else ⟨words.setIfInBounds 0 new, 1⟩

/-- The words of a natural number in base `2 ^ 32`, the least significant first; zero has one. -/
def seedWords (n : Nat) : Array UInt32 :=
  (List.range (Nat.log2 n / 32 + 1)).toArray.map fun i => UInt32.ofNat (n >>> (32 * i))

/-- The generator for a seed. The sign of the seed plays no part. -/
def ofSeed (seed : Int) : Twister :=
  let keys := seedWords seed.natAbs
  let start : Stirring := ⟨grown 19650218, 1⟩
  let stirred := Nat.fold (max size keys.size) (fun k _ (s : Stirring) =>
    let j := k % keys.size
    s.step fun w before => (w ^^^ (before * 1664525)) + word keys j + UInt32.ofNat j) start
  let stirred := Nat.fold (size - 1) (fun _ _ (s : Stirring) =>
    s.step fun w before => (w ^^^ (before * 1566083941)) - UInt32.ofNat s.index) stirred
  ⟨stirred.words.setIfInBounds 0 0x80000000, size⟩

/-- All words renewed. -/
def renewed (words : Array UInt32) : Array UInt32 :=
  Nat.fold size (fun i _ words =>
    let y := (word words i &&& 0x80000000) ||| (word words ((i + 1) % size) &&& 0x7fffffff)
    let twist : UInt32 := if y &&& 1 = 1 then 0x9908b0df else 0
    words.setIfInBounds i (word words ((i + 397) % size) ^^^ (y >>> 1) ^^^ twist)) words

/-- The bits of a word spread over the output. -/
def tempered (y : UInt32) : UInt32 :=
  let y := y ^^^ (y >>> 11)
  let y := y ^^^ ((y <<< 7) &&& 0x9d2c5680)
  let y := y ^^^ ((y <<< 15) &&& 0xefc60000)
  y ^^^ (y >>> 18)

/-- The next 32 bits. -/
def next (t : Twister) : UInt32 × Twister :=
  let t := if t.used < size then t else ⟨renewed t.words, 0⟩
  (tempered (word t.words t.used), { t with used := t.used + 1 })

/-- A number from zero up to and without one, in steps of `2 ^ (-53)`. -/
def fraction (t : Twister) : Float × Twister :=
  let (a, t) := t.next
  let (b, t) := t.next
  let n := (a >>> 5).toNat <<< 26 + (b >>> 6).toNat
  (Float.ofNat n / 9007199254740992.0, t)

/-- How often a number that is too large is drawn again. Each draw fails with less than an even
chance, so this many failures do not happen. -/
def patience : Nat := 1000

/-- A natural number below `n`, drawn with `bits` bits. -/
def belowWithin (bits n : Nat) (t : Twister) : Nat → Nat × Twister
  | 0 => (0, t)
  | tries + 1 =>
    let (w, t) := t.next
    let r := w.toNat >>> (32 - bits)
    if r < n then (r, t) else belowWithin bits n t tries

/-- A natural number below `n`. -/
def below (n : Nat) (t : Twister) : Nat × Twister :=
  belowWithin (Nat.log2 n + 1) n t patience

/-- The generator as a source of random choices. -/
def draws : Draws Twister where
  chance p t :=
    let (x, t) := t.fraction
    (x < p, t)
  below := below
  amount t :=
    let (x, t) := t.fraction
    (.ofFloat (0.5 + (999.0 - 0.5) * x), t)

end Twister

end Calculator
