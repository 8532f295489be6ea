import Storyboard.Preview.Node

/-! # Sampling a node

What a sprite looks like at a moment: its tracks are sampled first, then those of every loop that
is being played. Triggers wait for events and are not sampled.
-/

namespace Storyboard

/-- What a sprite looks like at a moment. -/
structure NodeState (R : Type) where
  x : R
  y : R
  scale : Vec2 R
  /-- Angle in radians. -/
  rotation : R
  color : Color R
  opacity : R
  additive : Bool
  /-- Whether the image is flipped from side to side. -/
  flipH : Bool
  /-- Whether the image is flipped from top to bottom. -/
  flipV : Bool
  frame : Nat
  deriving DecidableEq, Repr

variable {R : Type} [Scalar R]

/-- The state of a sprite that nothing animates. -/
def NodeState.still (position : Vec2 R) : NodeState R where
  x := position.x
  y := position.y
  scale := ⟨1.0, 1.0⟩
  rotation := 0.0
  color := Color.white
  opacity := 1.0
  additive := false
  flipH := false
  flipV := false
  frame := 0

/-- The state with what tracks say at a time; a factor for each side wins over one for both. -/
def NodeTracks.apply [Transcendental R] (tracks : NodeTracks R) (time : R)
    (state : NodeState R) : NodeState R :=
  let even := (Track.valueAt? tracks.scale time).map fun s : R => (⟨s, s⟩ : Vec2 R)
  { state with
    x := (Track.valueAt? tracks.x time).getD state.x
    y := (Track.valueAt? tracks.y time).getD state.y
    scale := (Track.valueAt? tracks.scaleVec time).getD (even.getD state.scale)
    rotation := (Track.valueAt? tracks.rotation time).getD state.rotation
    color := (Track.valueAt? tracks.color time).getD state.color
    opacity := (Track.valueAt? tracks.opacity time).getD state.opacity
    additive := (Track.valueAt? tracks.additive time).getD state.additive
    flipH := (Track.valueAt? tracks.flipH time).getD state.flipH
    flipV := (Track.valueAt? tracks.flipV time).getD state.flipV }

namespace NodeLoop

/-- How often the loop is played. -/
def rounds (l : NodeLoop R) : R := Scalar.ofNat (max l.repeatCount 1)

/-- The moment of the loop's own time that is shown at a time, while the loop is played. -/
def localTime? (l : NodeLoop R) (time : R) : Option R := do
  let first ← l.tracks.startTime?
  let last ← l.tracks.endTime?
  let start := l.startTime + first
  let period := last - first
  let stop := start + period * l.rounds
  if time < start ∨ stop < time then none
  else if 0.0 < period then
    if stop ≤ time then some last else some (first + Scalar.rem (time - start) period)
  else some first

def apply [Transcendental R] (l : NodeLoop R) (time : R) (state : NodeState R) : NodeState R :=
  match l.localTime? time with
  | some moment => l.tracks.apply moment state
  | none => state

end NodeLoop

namespace Frames

/-- The image after some time, counted from the first one. -/
def imageAt (frames : Frames R) (elapsed : R) : Nat :=
  if frames.count = 0 ∨ frames.delay ≤ 0.0 ∨ elapsed ≤ 0.0 then 0
  else
    let shown := (Scalar.clampedTrunc 0 0xFFFFFFFFFFFFFFFF (elapsed / frames.delay)).toNat
    match frames.frameLoop with
    | .forever => shown % frames.count
    | .once => min shown (frames.count - 1)

theorem imageAt_lt (frames : Frames R) (elapsed : R) (nonempty : 0 < frames.count) :
    frames.imageAt elapsed < frames.count := by
  unfold imageAt
  split
  · exact nonempty
  · cases frames.frameLoop with
    | forever => exact Nat.mod_lt _ nonempty
    | once => simp only; omega

end Frames

namespace SpriteNode

/-- The earliest start outside of blocks and in loops. -/
def startTime? (node : SpriteNode R) : Option R :=
  Scalar.least? <|
    node.tracks.startTime?.toList ++
      node.loops.filterMap fun l => l.tracks.startTime?.map fun s => l.startTime + s

/-- The state without the image of an animation. -/
def pictureAt [Transcendental R] (node : SpriteNode R) (time : R) : NodeState R :=
  node.loops.foldl (fun state l => l.apply time state)
    (node.tracks.apply time (NodeState.still node.position))

/-- The image of an animation at a time. -/
def frameAt (node : SpriteNode R) (time : R) : Nat :=
  match node.frames with
  | some frames => frames.imageAt (time - node.startTime?.getD 0.0)
  | none => 0

def stateAt [Transcendental R] (node : SpriteNode R) (time : R) : NodeState R :=
  { node.pictureAt time with frame := node.frameAt time }

end SpriteNode

end Storyboard
