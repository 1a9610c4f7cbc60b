import Calculator.Number.Binary64
import Calculator.Text.Quoted

/-!
# Expressions

An expression is a number, a signed operand, or two operands joined by an operator. Trees may also
be put together by hand, so what stands at an operator position is a mark, which may be something
else than an operator of the right kind, and a leaf may be a foreign object that is no expression at
all. The parser builds neither; the walks over trees say what happens when they meet one.
-/

namespace Calculator

/-- A sign in front of an operand. -/
inductive Sign where
  | plus
  | minus
deriving DecidableEq, Repr

/-- An operator between two operands. -/
inductive Operator where
  | add
  | sub
  | mul
  | div
deriving DecidableEq, Repr

namespace Sign

/-- How a sign is written. -/
def text : Sign → String
  | plus => "+"
  | minus => "-"

/-- How messages show a sign that they do not expect. -/
def display : Sign → String
  | plus => "<UnaryOp.POS: " ++ Text.quoted plus.text ++ ">"
  | minus => "<UnaryOp.NEG: " ++ Text.quoted minus.text ++ ">"

/-- The sign that a text writes. -/
def ofText? (s : String) : Option Sign :=
  if s = "+" then some plus
  else if s = "-" then some minus
  else none

end Sign

namespace Operator

/-- How an operator is written. -/
def text : Operator → String
  | add => "+"
  | sub => "-"
  | mul => "*"
  | div => "/"

/-- How messages show an operator that they do not expect. -/
def display : Operator → String
  | add => "<BinaryOp.ADD: " ++ Text.quoted add.text ++ ">"
  | sub => "<BinaryOp.SUB: " ++ Text.quoted sub.text ++ ">"
  | mul => "<BinaryOp.MUL: " ++ Text.quoted mul.text ++ ">"
  | div => "<BinaryOp.DIV: " ++ Text.quoted div.text ++ ">"

/-- The operator that a text writes. -/
def ofText? (s : String) : Option Operator :=
  if s = "+" then some add
  else if s = "-" then some sub
  else if s = "*" then some mul
  else if s = "/" then some div
  else none

/-- How strongly an operator binds: products bind tighter than sums. -/
def priority : Operator → Nat
  | add => 1
  | sub => 1
  | mul => 2
  | div => 2

end Operator

/-- Something at an operator position that is no operator of the right kind, by what it shows of
itself. It may well be equal to one, as a text is that writes it, and it may carry a name, as an
operator of the other kind does. -/
structure Stray where
  /-- How messages show it. -/
  shown : String
  /-- The text that it is equal to, if it is equal to any. -/
  text? : Option String := none
  /-- The name that it gives, if it has one. -/
  name? : Option String := none
  /-- The strength with which it binds, if it has one. -/
  strength? : Option Nat := none
deriving DecidableEq, Repr

namespace Stray

/-- A bare text. It is equal to itself and has no name, whatever it writes. -/
def ofText (s : String) : Stray := { shown := Text.quoted s, text? := some s }

/-- The sign that it is equal to. -/
def sign? (stray : Stray) : Option Sign := stray.text?.bind Sign.ofText?

/-- The operator that it is equal to. -/
def operator? (stray : Stray) : Option Operator := stray.text?.bind Operator.ofText?

instance : Coe Stray String := ⟨shown⟩

end Stray

/-- What stands at an operator position of a tree: an operator of the right kind, or something
else. -/
inductive Mark (α : Type) where
  | known (op : α)
  | other (stray : Stray)
deriving DecidableEq, Repr

namespace Mark

/-- The sign that a text marks. -/
def sign (s : String) : Mark Sign :=
  match Sign.ofText? s with
  | some sign => .known sign
  | none => .other (.ofText s)

/-- The operator that a text marks. -/
def operator (s : String) : Mark Operator :=
  match Operator.ofText? s with
  | some op => .known op
  | none => .other (.ofText s)

variable {α : Type} (write : α → String)

/-- The name that a mark gives. Operators of the right kind are named as they are written. -/
def name? : Mark α → Option String
  | known op => some (write op)
  | other stray => stray.name?

/-- The text that a mark is equal to. -/
def text? : Mark α → Option String
  | known op => some (write op)
  | other stray => stray.text?

@[simp] theorem name?_known (op : α) : (known op).name? write = some (write op) := rfl

@[simp] theorem name?_other (stray : Stray) : (other stray : Mark α).name? write = stray.name? :=
  rfl

/-- Whether two marks are equal. Whatever is equal to a text is compared as that text. -/
def sameAs [DecidableEq α] (m m' : Mark α) : Bool :=
  match m.text? write, m'.text? write with
  | none, none => m == m'
  | s, s' => s == s'

@[simp] theorem sameAs_self [DecidableEq α] (m : Mark α) : m.sameAs write m = true := by
  unfold sameAs
  split <;> exact beq_self_eq_true _

end Mark

/-- An expression tree. -/
inductive Expr where
  | literal (value : Binary64)
  | unary (mark : Mark Sign) (operand : Expr)
  | binary (mark : Mark Operator) (left right : Expr)
  | foreign (kind : String)
deriving DecidableEq, Repr

namespace Expr

/-- Whether two trees have the same shape, the same marks and equal numbers. -/
def sameAs : Expr → Expr → Bool
  | literal x, literal y => x.sameValue y
  | unary m e, unary m' e' => m.sameAs Sign.text m' && e.sameAs e'
  | binary m l r, binary m' l' r' =>
    m.sameAs Operator.text m' && l.sameAs l' && r.sameAs r'
  | foreign k, foreign k' => k == k'
  | _, _ => false

/-- Whether two trees are the same, compared from the root down, a left operand before the right
one, up to the first difference. There is no answer if that takes more levels than are left. -/
def sameWithin : Nat → Expr → Expr → Option Bool
  | 0, _, _ => none
  | n + 1, unary m e, unary m' e' =>
    if m.sameAs Sign.text m' then sameWithin n e e' else some false
  | n + 1, binary m l r, binary m' l' r' =>
    if m.sameAs Operator.text m' then
      match sameWithin n l l' with
      | some true => sameWithin n r r'
      | answer => answer
    else some false
  | _ + 1, e, e' => some (e.sameAs e')

/-- Whether two trees are the same, unless they are too deep to be compared. How many levels are
compared is for the system to say. -/
def same? (e e' : Expr) (levels : Nat := 330) : Option Bool := sameWithin levels e e'

/-- Whether every mark of a tree is an operator of the right kind and no leaf is foreign. -/
def Supported : Expr → Prop
  | literal _ => True
  | unary (.known _) e => e.Supported
  | binary (.known _) l r => l.Supported ∧ r.Supported
  | _ => False

end Expr

end Calculator
