import Storyboard.Number.Scalar

/-! # Points of the play area -/

namespace Storyboard

/-- A point or an offset. -/
structure Vec2 (R : Type) where
  /-- The horizontal coordinate, growing to the right. -/
  x : R
  /-- The vertical coordinate, growing downward. -/
  y : R
  deriving DecidableEq, Repr

namespace Vec2

variable {R : Type} [Scalar R]

/-- The two numbers of a point changed in the same way. -/
def map (f : R → R) (v : Vec2 R) : Vec2 R := ⟨f v.x, f v.y⟩

/-- The point moved back by an offset. -/
def sub (v offset : Vec2 R) : Vec2 R := ⟨v.x - offset.x, v.y - offset.y⟩

/-- The middle of the play area, where a sprite stands unless it says otherwise. -/
def centre : Vec2 R := ⟨320.0, 240.0⟩

end Vec2

end Storyboard
