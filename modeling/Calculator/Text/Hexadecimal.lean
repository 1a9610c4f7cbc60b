/-!
# Hexadecimal

Code points are written in hexadecimal: with small letters by this library, and with letters of
either size in what it reads.
-/

namespace Calculator.Text

/-- `n` in hexadecimal with small letters, filled up with zeros to `width` digits. -/
def hexDigits (width n : Nat) : List Char :=
  let ds := Nat.toDigits 16 n
  List.replicate (width - ds.length) '0' ++ ds

/-- The value of a hexadecimal digit. -/
def hexValue? (c : Char) : Option Nat :=
  if c.isDigit then some (c.toNat - 48)
  else if 'a' ≤ c ∧ c ≤ 'f' then some (c.toNat - 87)
  else if 'A' ≤ c ∧ c ≤ 'F' then some (c.toNat - 55)
  else none

/-- The character with a code point in hexadecimal. Surrogates are no characters. -/
def hexChar? (ds : List Char) : Option Char :=
  match ds.mapM hexValue? with
  | none => none
  | some vs =>
    let n := vs.foldl (fun n v => n * 16 + v) 0
    if n.isValidChar then some (Char.ofNat n) else none

end Calculator.Text
