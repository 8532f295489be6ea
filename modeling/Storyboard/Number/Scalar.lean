/-! # Numbers a storyboard computes with

Times, coordinates and colours are binary floating-point numbers when a storyboard is built, and
the same rules make sense over the rationals. `Scalar` lists what the rules need, so sampling,
rounding and shifting are written once and can be read in either arithmetic.
-/

namespace Storyboard

/-- Arithmetic, comparison and the exact operations that storyboard rules use. -/
class Scalar (R : Type) extends Add R, Sub R, Mul R, Div R, Neg R, LE R, LT R, OfScientific R where
  ofNat : Nat → R
  decidableLE : DecidableLE R
  decidableLT : DecidableLT R
  /-- The total order that sorting uses, which also places what `≤` cannot compare. -/
  totalLE : R → R → Bool
  /-- The rational number that a finite value stands for. -/
  rational? : R → Option Rat
  /-- The integral part, toward zero. -/
  trunc : R → R
  /-- The integral part as an integer, brought into an interval. -/
  clampedTrunc : Int → Int → R → Int
  /-- The remainder of a division whose quotient is taken toward zero. -/
  rem : R → R → R
  /-- The text of the number inside a message. -/
  message : R → String

/-- Whether one number is at most another one can be decided. -/
instance decidableLEOfScalar {R : Type} [Scalar R] : DecidableLE R := Scalar.decidableLE

/-- Whether one number is less than another one can be decided. -/
instance decidableLTOfScalar {R : Type} [Scalar R] : DecidableLT R := Scalar.decidableLT

namespace Scalar

variable {R : Type} [Scalar R]

/-- A number that does not equal itself is no number at all. -/
def isNaN (x : R) : Bool := !decide (x ≤ x)

/-- The two numbers are equal as numbers. -/
def same (x y : R) : Bool := decide (x ≤ y) && decide (y ≤ x)

/-- The lesser of two numbers; a missing number gives way to the other one. -/
def min (x y : R) : R :=
  if isNaN x then y else if y < x then y else x

/-- The greater of two numbers; a missing number gives way to the other one. -/
def max (x y : R) : R :=
  if isNaN x then y else if x < y then y else x

/-- The least of some numbers, if there are any. -/
def least? : List R → Option R
  | [] => none
  | x :: rest => some (rest.foldl min x)

/-- The greatest of some numbers, if there are any. -/
def greatest? : List R → Option R
  | [] => none
  | x :: rest => some (rest.foldl max x)

/-- The distance from zero. -/
def magnitude (x : R) : R := if x < 0.0 then -x else x

/-- The part after the point, with the sign of the number. -/
def fraction (x : R) : R := x - trunc x

/-- The nearest integer, a half going away from zero. -/
def roundAway (x : R) : R :=
  if 0.5 ≤ magnitude (fraction x) then
    if x < 0.0 then trunc x - 1.0 else trunc x + 1.0
  else trunc x

/-- The order on windows: by start, then by end. -/
def windowLE (x y : R × R) : Bool :=
  totalLE x.1 y.1 && (!totalLE y.1 x.1 || totalLE x.2 y.2)

end Scalar

/-- Functions of analysis that some easing curves use. -/
class Transcendental (R : Type) where
  /-- The sine of an angle in radians. -/
  sin : R → R
  exp2 : R → R
  sqrt : R → R

/-- The integral part of a rational number, toward zero. -/
def truncRat (q : Rat) : Int := q.num.tdiv q.den

/-- Rational numbers, in which every rule holds without rounding. -/
instance : Scalar Rat where
  ofNat n := n
  decidableLE := inferInstance
  decidableLT := inferInstance
  totalLE x y := decide (x ≤ y)
  rational? x := some x
  trunc x := truncRat x
  clampedTrunc lo hi x := Max.max lo (Min.min hi (truncRat x))
  rem x y := x - y * truncRat (x / y)
  message x := if x.den = 1 then toString x.num else s!"{x.num}/{x.den}"

end Storyboard
