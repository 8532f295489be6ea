import Storyboard.Number.Scalar

/-! # Easing curves

The 35 curves that a command's progress may follow, each with its code in command lines. A curve
is given by how it decelerates; its accelerating form is the reflection, and the form that does
both runs one half after the other.
-/

namespace Storyboard

/-- A curve by name, in the order of the codes. -/
inductive Easing where
  | linear | easeOut | easeIn
  | inQuad | outQuad | inOutQuad
  | inCubic | outCubic | inOutCubic
  | inQuart | outQuart | inOutQuart
  | inQuint | outQuint | inOutQuint
  | inSine | outSine | inOutSine
  | inExpo | outExpo | inOutExpo
  | inCirc | outCirc | inOutCirc
  | inElastic | outElastic | outElasticHalf | outElasticQuarter | inOutElastic
  | inBack | outBack | inOutBack
  | inBounce | outBounce | inOutBounce
  deriving DecidableEq, Repr

namespace Easing

/-- A command without an easing moves evenly. -/
instance : Inhabited Easing := ⟨.linear⟩

/-- Every curve with its name, ordered by code. -/
def named : List (Easing × String) :=
  [(.linear, "None"), (.easeOut, "Out"), (.easeIn, "In"),
    (.inQuad, "InQuad"), (.outQuad, "OutQuad"), (.inOutQuad, "InOutQuad"),
    (.inCubic, "InCubic"), (.outCubic, "OutCubic"), (.inOutCubic, "InOutCubic"),
    (.inQuart, "InQuart"), (.outQuart, "OutQuart"), (.inOutQuart, "InOutQuart"),
    (.inQuint, "InQuint"), (.outQuint, "OutQuint"), (.inOutQuint, "InOutQuint"),
    (.inSine, "InSine"), (.outSine, "OutSine"), (.inOutSine, "InOutSine"),
    (.inExpo, "InExpo"), (.outExpo, "OutExpo"), (.inOutExpo, "InOutExpo"),
    (.inCirc, "InCirc"), (.outCirc, "OutCirc"), (.inOutCirc, "InOutCirc"),
    (.inElastic, "InElastic"), (.outElastic, "OutElastic"), (.outElasticHalf, "OutElasticHalf"),
    (.outElasticQuarter, "OutElasticQuarter"), (.inOutElastic, "InOutElastic"),
    (.inBack, "InBack"), (.outBack, "OutBack"), (.inOutBack, "InOutBack"),
    (.inBounce, "InBounce"), (.outBounce, "OutBounce"), (.inOutBounce, "InOutBounce")]

/-- Every curve, ordered by code. -/
def all : List Easing := named.map Prod.fst

/-- The code of a curve in command lines. -/
def code (easing : Easing) : Nat := all.idxOf easing

def ofCode? (code : Nat) : Option Easing := all[code]?

def name (easing : Easing) : String := (named.lookup easing).getD ""

def ofName? (name : String) : Option Easing :=
  (named.find? fun entry => entry.2 == name).map Prod.fst

theorem ofName?_name (easing : Easing) : ofName? easing.name = some easing := by
  cases easing <;> decide

/-- The shapes of deceleration. -/
inductive Shape where
  /-- A power of the remaining progress, from two to five. -/
  | quad | cubic | quart | quint
  /-- A quarter of a sine wave. -/
  | sine
  /-- Halving ten times. -/
  | expo
  /-- A quarter of a circle. -/
  | circ
  /-- A damped swing, by the quarters of its full speed. -/
  | elastic (quarters : Nat)
  /-- A run past the end and back. -/
  | back
  /-- Four bounces. -/
  | bounce
  deriving DecidableEq, Repr

/-- How a curve uses its shape. -/
inductive Direction where
  /-- Accelerating. -/
  | accelerate
  /-- Decelerating. -/
  | decelerate
  /-- Accelerating, then decelerating. -/
  | both
  deriving DecidableEq, Repr

/-- The shape and direction of a curve; an even one has none. -/
def parts? : Easing → Option (Shape × Direction)
  | .linear => none
  | .easeIn | .inQuad => some (.quad, .accelerate)
  | .easeOut | .outQuad => some (.quad, .decelerate)
  | .inOutQuad => some (.quad, .both)
  | .inCubic => some (.cubic, .accelerate)
  | .outCubic => some (.cubic, .decelerate)
  | .inOutCubic => some (.cubic, .both)
  | .inQuart => some (.quart, .accelerate)
  | .outQuart => some (.quart, .decelerate)
  | .inOutQuart => some (.quart, .both)
  | .inQuint => some (.quint, .accelerate)
  | .outQuint => some (.quint, .decelerate)
  | .inOutQuint => some (.quint, .both)
  | .inSine => some (.sine, .accelerate)
  | .outSine => some (.sine, .decelerate)
  | .inOutSine => some (.sine, .both)
  | .inExpo => some (.expo, .accelerate)
  | .outExpo => some (.expo, .decelerate)
  | .inOutExpo => some (.expo, .both)
  | .inCirc => some (.circ, .accelerate)
  | .outCirc => some (.circ, .decelerate)
  | .inOutCirc => some (.circ, .both)
  | .inElastic => some (.elastic 4, .accelerate)
  | .outElastic => some (.elastic 4, .decelerate)
  | .outElasticHalf => some (.elastic 2, .decelerate)
  | .outElasticQuarter => some (.elastic 1, .decelerate)
  | .inOutElastic => some (.elastic 4, .both)
  | .inBack => some (.back, .accelerate)
  | .outBack => some (.back, .decelerate)
  | .inOutBack => some (.back, .both)
  | .inBounce => some (.bounce, .accelerate)
  | .outBounce => some (.bounce, .decelerate)
  | .inOutBounce => some (.bounce, .both)

variable {R : Type} [Scalar R]

def square (x : R) : R := x * x

/-- Progress brought into `0` to `1`. -/
def clamp (t : R) : R :=
  let t := if t < 0.0 then 0.0 else t
  if 1.0 < t then 1.0 else t

/-- The bounces: arcs of one parabola that meet at the ends of their stretches. -/
def bounceOut (t : R) : R :=
  let arc (centre height : R) : R :=
    let u := t - centre / 2.75
    7.5625 * u * u + height
  if t < 1.0 / 2.75 then 7.5625 * t * t
  else if t < 2.0 / 2.75 then arc 1.5 0.75
  else if t < 2.5 / 2.75 then arc 2.25 0.9375
  else arc 2.625 0.984375

/-- The run past the end and back. -/
def backOut (t : R) : R :=
  let u := t - 1.0
  u * u * ((1.70158 + 1.0) * u + 1.70158) + 1.0

def halfTurn : R := 3.141592653589793

/-- The damped swing. -/
def elasticOut [Transcendental R] (quarters : Nat) (t : R) : R :=
  if t ≤ 0.0 then 0.0
  else if 1.0 ≤ t then 1.0
  else
    let speed : R := Scalar.ofNat quarters / 4.0
    Transcendental.exp2 (-10.0 * t) *
      Transcendental.sin ((speed * t - 0.075) * (2.0 * halfTurn) / 0.3) + 1.0

def Shape.decelerate [Transcendental R] (shape : Shape) (t : R) : R :=
  match shape with
  | .quad => 1.0 - square (1.0 - t)
  | .cubic => 1.0 - (1.0 - t) * square (1.0 - t)
  | .quart => 1.0 - square (square (1.0 - t))
  | .quint => 1.0 - (1.0 - t) * square (square (1.0 - t))
  | .sine => Transcendental.sin (t * halfTurn / 2.0)
  | .expo => if 1.0 ≤ t then 1.0 else 1.0 - Transcendental.exp2 (-10.0 * t)
  | .circ => Transcendental.sqrt (1.0 - square (t - 1.0))
  | .elastic quarters => elasticOut quarters t
  | .back => backOut t
  | .bounce => bounceOut t

/-- The reflection of a decelerating curve. -/
def accelerate (out : R → R) (t : R) : R := 1.0 - out (1.0 - t)

/-- Half of the reflection, then half of the curve. -/
def accelerateThenDecelerate (out : R → R) (t : R) : R :=
  if t < 0.5 then accelerate out (2.0 * t) * 0.5 else out (2.0 * t - 1.0) * 0.5 + 0.5

/-- The eased progress at some progress. -/
def apply [Transcendental R] (easing : Easing) (t : R) : R :=
  let t := clamp t
  match easing.parts? with
  | none => t
  | some (shape, .accelerate) => accelerate shape.decelerate t
  | some (shape, .decelerate) => shape.decelerate t
  | some (shape, .both) => accelerateThenDecelerate shape.decelerate t

end Easing

end Storyboard
