import Storyboard.Sprite

/-! # Elements

What a storyboard shows and plays: sprites, animations, samples and the background video. Each
has a layer and a window of time, by which elements are put in order.
-/

namespace Storyboard

/-- A sprite that goes through numbered images. -/
structure Animation (R : Type) where
  sprite : Sprite R
  frameCount : Nat
  /-- How long an image stays, in milliseconds. -/
  frameDelay : R
  frameLoop : FrameLoop := default
  deriving DecidableEq, Repr

/-- A sound that is played once. -/
structure Sample (R : Type) where
  path : String
  /-- The layer that it belongs to. -/
  layer : Layer
  startTime : R
  /-- The volume in percent. -/
  volume : R
  deriving DecidableEq, Repr

/-- The background video. -/
structure Video (R : Type) where
  path : String
  startTime : R
  deriving DecidableEq, Repr

/-- Anything that a storyboard shows or plays. -/
inductive Element (R : Type) where
  | sprite (sprite : Sprite R)
  | animation (animation : Animation R)
  | sample (sample : Sample R)
  | video (video : Video R)
  deriving DecidableEq, Repr

namespace Element

variable {R : Type}

/-- The layer; a video lies behind the background. -/
def layer : Element R → Layer
  | .sprite s => s.layer
  | .animation a => a.sprite.layer
  | .sample s => s.layer
  | .video _ => .background

def isVideo : Element R → Bool
  | .video _ => true
  | _ => false

def sprite? : Element R → Option (Sprite R)
  | .sprite s => some s
  | .animation a => some a.sprite
  | .sample _ | .video _ => none

def mapSprite (f : Sprite R → Sprite R) : Element R → Element R
  | .sprite s => .sprite (f s)
  | .animation a => .animation { a with sprite := f a.sprite }
  | .sample s => .sample s
  | .video v => .video v

theorem sprite?_mapSprite (f : Sprite R → Sprite R) (e : Element R) :
    (e.mapSprite f).sprite? = e.sprite?.map f := by
  cases e <;> rfl

variable [Scalar R]

/-- When the element starts; a sprite without commands starts at zero. -/
def startTime : Element R → R
  | .sprite s => s.startTime?.getD 0.0
  | .animation a => a.sprite.startTime?.getD 0.0
  | .sample s => s.startTime
  | .video v => v.startTime

/-- When the element ends; samples and videos count as instants. -/
def endTime : Element R → R
  | .sprite s => s.endTime?.getD 0.0
  | .animation a => a.sprite.endTime?.getD 0.0
  | .sample s => s.startTime
  | .video v => v.startTime

def window (e : Element R) : R × R := (e.startTime, e.endTime)

end Element

end Storyboard
