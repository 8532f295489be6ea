import Storyboard.Number.Scalar
import Storyboard.Number.Decimal

/-! # Rounding to decimal places

Values are rounded half away from zero to a number of decimal places, with products that land
next to a tie counted as the tie. The event text writes times and positions as integers and
factors with at most two places, both by this rounding.
-/

namespace Storyboard

variable {R : Type} [Scalar R]

/-- The most places that rounding distinguishes. -/
def maxPlaces : Nat := 15

/-- The bounds of a 64-bit signed integer, which integer texts are brought into. -/
def leastInteger : Int := -0x8000000000000000

/-- The upper bound of a 64-bit signed integer. -/
def greatestInteger : Int := 0x7FFFFFFFFFFFFFFF

/-- How far from a tie a scaled magnitude may lie and still count as the tie. -/
def tieTolerance (size : R) : R :=
  (1.0 / Scalar.ofNat 0x4000000000000) * Scalar.max size 1.0

/-- A scaled value next to a tie, moved onto the tie. -/
def snapToTie (scaled : R) : R :=
  let size := Scalar.magnitude scaled
  if Scalar.magnitude (Scalar.fraction size - 0.5) ≤ tieTolerance size then
    let tie := Scalar.trunc size + 0.5
    if scaled < 0.0 then -tie else tie
  else scaled

/-- Rounds to decimal places, ties away from zero; zero has no sign, what is not finite stays. -/
def roundTo (x : R) (places : Nat) : R :=
  if (Scalar.rational? x).isNone then x
  else
    let scale : R := Scalar.ofNat (Nat.pow 10 (min places maxPlaces))
    let rounded := Scalar.roundAway (snapToTie (x * scale)) / scale
    if Scalar.same rounded 0.0 then 0.0 else rounded

/-- The nearest integer, a tie away from zero, brought into 64 bits. -/
def roundToInteger (x : R) : Int :=
  Scalar.clampedTrunc leastInteger greatestInteger (roundTo x 0)

/-- The text of a time or position: the nearest integer. -/
def integerText (x : R) : String := toString (roundToInteger x)

/-- The text of a factor: no places for an integer and two for any other number. -/
def fractionText (x : R) : String :=
  let rounded := roundTo x 2
  if Scalar.same (Scalar.fraction rounded) 0.0 then
    toString (Scalar.clampedTrunc leastInteger greatestInteger rounded)
  else
    match Scalar.rational? rounded with
    | some q => hundredths q
    | none => Scalar.message rounded

end Storyboard
