import Mathlib.Algebra.Order.Ring.Rat
import Storyboard.Number.Scalar

/-! # Numbers that may be missing

Exact arithmetic in which a division by zero has no result, and nothing has one that is computed
from it. Where a rule gives the same number here as over the rationals, no division by zero has
taken part in it.
-/

namespace Storyboard

/-- A rational number, or nothing. -/
structure Checked where
  /-- The number, if there is one. -/
  number? : Option Rat
  deriving DecidableEq

namespace Checked

/-- A number that is there. -/
def of (x : Rat) : Checked := ⟨some x⟩

/-- An operation on two numbers, which has a result only if both are there. -/
def binary (op : Rat → Rat → Option Rat) (x y : Checked) : Checked :=
  ⟨x.number?.bind fun a => y.number?.bind fun b => op a b⟩

/-- A comparison of two numbers, which holds only if both are there. -/
def compare (test : Rat → Rat → Bool) (x y : Checked) : Bool :=
  x.number?.any fun a => y.number?.any fun b => test a b

end Checked

/-- There is no quotient by zero. -/
instance : Scalar Checked where
  add := Checked.binary fun a b => some (a + b)
  sub := Checked.binary fun a b => some (a - b)
  mul := Checked.binary fun a b => some (a * b)
  div := Checked.binary fun a b => if b = 0 then none else some (a / b)
  neg x := ⟨x.number?.map fun a => -a⟩
  le x y := Checked.compare (fun a b => a ≤ b) x y = true
  lt x y := Checked.compare (fun a b => a < b) x y = true
  ofScientific digits below exponent := .of (OfScientific.ofScientific digits below exponent)
  ofNat n := .of n
  decidableLE _ _ := inferInstanceAs (Decidable (_ = true))
  decidableLT _ _ := inferInstanceAs (Decidable (_ = true))
  totalLE x y := x.number?.isNone || Checked.compare (fun a b => a ≤ b) x y
  rational? := Checked.number?
  trunc x := ⟨x.number?.map fun a => truncRat a⟩
  clampedTrunc lo hi x := (x.number?.map (Scalar.clampedTrunc lo hi)).getD 0
  rem := Checked.binary fun a b => if b = 0 then none else some (Scalar.rem a b)
  message x := (x.number?.map Scalar.message).getD ""

/-- The functions of analysis have a value for every number. -/
instance [Transcendental Rat] : Transcendental Checked where
  sin x := ⟨x.number?.map Transcendental.sin⟩
  exp2 x := ⟨x.number?.map Transcendental.exp2⟩
  sqrt x := ⟨x.number?.map Transcendental.sqrt⟩

namespace Checked

variable (x y : Rat)

@[simp] theorem of_add : of x + of y = of (x + y) := rfl

@[simp] theorem of_sub : of x - of y = of (x - y) := rfl

@[simp] theorem of_mul : of x * of y = of (x * y) := rfl

@[simp] theorem of_le : of x ≤ of y ↔ x ≤ y := decide_eq_true_iff

@[simp] theorem of_lt : of x < of y ↔ x < y := decide_eq_true_iff

@[simp] theorem ofScientific_eq (digits : Nat) (below : Bool) (exponent : Nat) :
    (OfScientific.ofScientific digits below exponent : Checked) =
      of (OfScientific.ofScientific digits below exponent) := rfl

variable {x y}

theorem of_div (nonzero : y ≠ 0) : of x / of y = of (x / y) :=
  congrArg Checked.mk (if_neg nonzero)

end Checked

end Storyboard
