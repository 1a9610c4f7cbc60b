/-!
# Sets of code points by their boundaries

The character classes of this library are unions of a few hundred ranges of code points. Such a set
is written as the increasing list of the code points at which membership changes: the set starts
outside, the first boundary enters it, the second leaves it, and so on. Each class is one such list
in a module of its own.
-/

namespace Calculator.Text

/-- Whether `n` lies in the set with the given boundaries, where `inside` says whether the code
points before the first boundary belong to it. The walk ends at the first boundary above `n`, so
small code points are answered at once. -/
def insideAt (inside : Bool) : List Nat → Nat → Bool
  | [], _ => inside
  | b :: bs, n => if n < b then inside else insideAt (!inside) bs n

/-- Whether `c` belongs to the set with the given boundaries. -/
def within (boundaries : List Nat) (c : Char) : Bool :=
  insideAt false boundaries c.toNat

end Calculator.Text
