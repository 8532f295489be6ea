import Storyboard.Element

/-! # Preview nodes

What a preview draws. A node has tracks for each coordinate but none for both: moves of both
coordinates are split, and follow the moves of one coordinate on its track.
-/

namespace Storyboard

/-- The tracks of a node. -/
structure NodeTracks (R : Type) where
  x : Track R R := []
  y : Track R R := []
  /-- One factor for both sides. -/
  scale : Track R R := []
  /-- A factor for each side. -/
  scaleVec : Track R (Vec2 R) := []
  /-- Angles in radians. -/
  rotation : Track R R := []
  color : Track R (Color R) := []
  /-- Opacity from 0 to 1. -/
  opacity : Track R R := []
  additive : Track R Bool := []
  /-- Whether the image is flipped from side to side. -/
  flipH : Track R Bool := []
  /-- Whether the image is flipped from top to bottom. -/
  flipV : Track R Bool := []
  deriving DecidableEq, Repr

namespace NodeTracks

variable {R : Type}

/-- The tracks of a sprite with the moves of both coordinates split. -/
def ofTracks (tracks : Tracks R) : NodeTracks R where
  x := tracks.x ++ Track.mapValues Vec2.x tracks.position
  y := tracks.y ++ Track.mapValues Vec2.y tracks.position
  scale := tracks.scale
  scaleVec := tracks.scaleVec
  rotation := tracks.rotation
  color := tracks.color
  opacity := tracks.opacity
  additive := tracks.additive
  flipH := tracks.flipH
  flipV := tracks.flipV

variable [Scalar R]

/-- The earliest start on any track. -/
def startTime? (tracks : NodeTracks R) : Option R :=
  Scalar.least? <|
    [Track.startTime? tracks.x, Track.startTime? tracks.y, Track.startTime? tracks.scale,
      Track.startTime? tracks.scaleVec, Track.startTime? tracks.rotation,
      Track.startTime? tracks.color, Track.startTime? tracks.opacity,
      Track.startTime? tracks.additive, Track.startTime? tracks.flipH,
      Track.startTime? tracks.flipV].filterMap id

/-- The latest end on any track. -/
def endTime? (tracks : NodeTracks R) : Option R :=
  Scalar.greatest? <|
    [Track.endTime? tracks.x, Track.endTime? tracks.y, Track.endTime? tracks.scale,
      Track.endTime? tracks.scaleVec, Track.endTime? tracks.rotation,
      Track.endTime? tracks.color, Track.endTime? tracks.opacity,
      Track.endTime? tracks.additive, Track.endTime? tracks.flipH,
      Track.endTime? tracks.flipV].filterMap id

end NodeTracks

/-- A loop of a node. -/
structure NodeLoop (R : Type) where
  startTime : R
  repeatCount : Nat
  tracks : NodeTracks R
  deriving DecidableEq, Repr

/-- A trigger of a node. -/
structure NodeTrigger (R : Type) where
  name : String
  startTime : R
  endTime : R
  group : Int
  tracks : NodeTracks R
  deriving DecidableEq, Repr

/-- The images of an animated node. -/
structure Frames (R : Type) where
  count : Nat
  delay : R
  frameLoop : FrameLoop
  deriving DecidableEq, Repr

/-- The node of a sprite or animation. -/
structure SpriteNode (R : Type) where
  path : String
  origin : Origin
  /-- The position while nothing moves it. -/
  position : Vec2 R
  frames : Option (Frames R) := none
  tracks : NodeTracks R
  loops : List (NodeLoop R) := []
  triggers : List (NodeTrigger R) := []
  deriving DecidableEq, Repr

namespace SpriteNode

variable {R : Type}

/-- The node of a sprite, whose windows are not looked at. -/
def ofSprite (s : Sprite R) (frames : Option (Frames R)) : SpriteNode R where
  path := s.path
  origin := s.origin
  position := s.initialPosition
  frames
  tracks := .ofTracks s.tracks
  loops := s.loops.map fun l => ⟨l.startTime, l.repeatCount, .ofTracks l.tracks⟩
  triggers := s.triggers.map fun t =>
    ⟨t.name, t.startTime, t.endTime, t.group, .ofTracks t.tracks⟩

end SpriteNode

/-- A sound of the preview. -/
structure SampleNode (R : Type) where
  path : String
  startTime : R
  /-- The volume in percent. -/
  volume : R
  deriving DecidableEq, Repr

/-- The video of the preview. -/
structure VideoNode (R : Type) where
  path : String
  startTime : R
  deriving DecidableEq, Repr

/-- What an element becomes in a preview. -/
inductive PreviewNode (R : Type) where
  | sprite (node : SpriteNode R)
  | sample (node : SampleNode R)
  | video (node : VideoNode R)
  deriving DecidableEq, Repr

namespace Element

variable {R : Type} [Scalar R]

def frames? : Element R → Option (Frames R)
  | .animation a => some ⟨a.frameCount, a.frameDelay, a.frameLoop⟩
  | _ => none

/-- The node of an element; a command that runs backward is a failure. -/
def previewNode (e : Element R) : Except Failure (PreviewNode R) :=
  match e with
  | .sprite s | .animation { sprite := s, .. } => do
    s.check
    return .sprite (.ofSprite s e.frames?)
  | .sample s => .ok (.sample ⟨s.path, s.startTime, s.volume⟩)
  | .video v => .ok (.video ⟨v.path, v.startTime⟩)

end Element

end Storyboard
