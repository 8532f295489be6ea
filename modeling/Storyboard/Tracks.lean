import Storyboard.Command

/-! # The tracks of a sprite

Eleven properties of a sprite can be animated, each on a track of its own. A sprite has one set of
tracks outside of any block; each of its loops and triggers has another, whose times count from
the start of the block.
-/

namespace Storyboard

/-- One track for each property. -/
structure Tracks (R : Type) where
  position : Track R (Vec2 R) := []
  x : Track R R := []
  y : Track R R := []
  /-- One factor for both sides. -/
  scale : Track R R := []
  /-- A factor for each side. -/
  scaleVec : Track R (Vec2 R) := []
  /-- Angles in radians. -/
  rotation : Track R R := []
  color : Track R (Color R) := []
  /-- Opacity from 0 to 1. -/
  opacity : Track R R := []
  /-- Whether light is added instead of covering what is behind. -/
  additive : Track R Bool := []
  /-- Whether the image is flipped from side to side. -/
  flipH : Track R Bool := []
  /-- Whether the image is flipped from top to bottom. -/
  flipV : Track R Bool := []
  deriving DecidableEq, Repr

/-- A command together with the property that it moves. -/
inductive PropertyCommand (R : Type) where
  | position (command : Command R (Vec2 R))
  | x (command : Command R R)
  | y (command : Command R R)
  | scale (command : Command R R)
  | scaleVec (command : Command R (Vec2 R))
  | rotation (command : Command R R)
  | color (command : Command R (Color R))
  | opacity (command : Command R R)
  | additive (command : Command R Bool)
  | flipH (command : Command R Bool)
  | flipV (command : Command R Bool)
  deriving DecidableEq, Repr

namespace PropertyCommand

variable {R : Type}

/-- A switch that is on over a window. -/
def switch (startTime endTime : R) : Command R Bool := ⟨.linear, startTime, endTime, true, true⟩

end PropertyCommand

namespace Tracks

variable {R : Type}

/-- Appends a command to the track of its property. -/
def push (tracks : Tracks R) : PropertyCommand R → Tracks R
  | .position c => { tracks with position := tracks.position ++ [c] }
  | .x c => { tracks with x := tracks.x ++ [c] }
  | .y c => { tracks with y := tracks.y ++ [c] }
  | .scale c => { tracks with scale := tracks.scale ++ [c] }
  | .scaleVec c => { tracks with scaleVec := tracks.scaleVec ++ [c] }
  | .rotation c => { tracks with rotation := tracks.rotation ++ [c] }
  | .color c => { tracks with color := tracks.color ++ [c] }
  | .opacity c => { tracks with opacity := tracks.opacity ++ [c] }
  | .additive c => { tracks with additive := tracks.additive ++ [c] }
  | .flipH c => { tracks with flipH := tracks.flipH ++ [c] }
  | .flipV c => { tracks with flipV := tracks.flipV ++ [c] }

def commandCount (tracks : Tracks R) : Nat :=
  tracks.position.length + tracks.x.length + tracks.y.length + tracks.scale.length +
    tracks.scaleVec.length + tracks.rotation.length + tracks.color.length +
    tracks.opacity.length + tracks.additive.length + tracks.flipH.length + tracks.flipV.length

def isEmpty (tracks : Tracks R) : Bool := tracks.commandCount == 0

/-- The windows of all commands, track by track. -/
def windows (tracks : Tracks R) : List (R × R) :=
  Track.windows tracks.position ++ Track.windows tracks.x ++ Track.windows tracks.y ++
    Track.windows tracks.scale ++ Track.windows tracks.scaleVec ++
    Track.windows tracks.rotation ++ Track.windows tracks.color ++
    Track.windows tracks.opacity ++ Track.windows tracks.additive ++
    Track.windows tracks.flipH ++ Track.windows tracks.flipV

variable [Scalar R]

/-- The earliest start on each track that has one. -/
def startTimes (tracks : Tracks R) : List R :=
  [Track.startTime? tracks.position, Track.startTime? tracks.x, Track.startTime? tracks.y,
    Track.startTime? tracks.scale, Track.startTime? tracks.scaleVec,
    Track.startTime? tracks.rotation, Track.startTime? tracks.color,
    Track.startTime? tracks.opacity, Track.startTime? tracks.additive,
    Track.startTime? tracks.flipH, Track.startTime? tracks.flipV].filterMap id

/-- The latest end on each track that has one. -/
def endTimes (tracks : Tracks R) : List R :=
  [Track.endTime? tracks.position, Track.endTime? tracks.x, Track.endTime? tracks.y,
    Track.endTime? tracks.scale, Track.endTime? tracks.scaleVec,
    Track.endTime? tracks.rotation, Track.endTime? tracks.color,
    Track.endTime? tracks.opacity, Track.endTime? tracks.additive,
    Track.endTime? tracks.flipH, Track.endTime? tracks.flipV].filterMap id

/-- The earliest start on any track. -/
def startTime? (tracks : Tracks R) : Option R := Scalar.least? tracks.startTimes

/-- The latest end on any track. -/
def endTime? (tracks : Tracks R) : Option R := Scalar.greatest? tracks.endTimes

/-- Fails at the first command that runs backward, track by track. -/
def check (tracks : Tracks R) : Except Failure Unit := checkWindows tracks.windows

end Tracks

/-- Commands that are played several times in a row; times count from the start of the loop. -/
structure Loop (R : Type) where
  startTime : R
  /-- How often the commands are played; no time counts as once. -/
  repeatCount : Nat
  tracks : Tracks R := {}
  deriving DecidableEq, Repr

namespace Loop

variable {R : Type} [Scalar R]

/-- How often the commands are played. -/
def rounds (l : Loop R) : R := Scalar.ofNat (max l.repeatCount 1)

/-- From the first start to the end of the last round, if there are commands. -/
def window? (l : Loop R) : Option (R × R) := do
  let first ← l.tracks.startTime?
  let last ← l.tracks.endTime?
  let start := l.startTime + first
  return (start, start + (last - first) * l.rounds)

end Loop

/-- Commands that are played when an event falls into a window; times count from the event. -/
structure Trigger (R : Type) where
  name : String
  startTime : R
  /-- When the trigger stops being active. -/
  endTime : R
  /-- The group of triggers of which one is played at a time. -/
  group : Int := 0
  tracks : Tracks R := {}
  deriving DecidableEq, Repr

namespace Trigger

variable {R : Type} [Scalar R]

/-- The active window, made wider by what the commands reach before and after the event. -/
def window (t : Trigger R) : R × R :=
  (t.startTime + Scalar.min (t.tracks.startTime?.getD 0.0) 0.0,
    t.endTime + Scalar.max (t.tracks.endTime?.getD 0.0) 0.0)

end Trigger

end Storyboard
