import Storyboard.Pipeline.Config
import Storyboard.Pipeline.Step

/-! # The standard steps

Choosing the groups of an export, moving positions for a wide play area, rounding values, and
handing the assets to a store. The standard pipeline has those of them that the settings ask for,
in this order.
-/

namespace Storyboard

variable {R : Type} [Scalar R]

/-- Whether a group belongs to an export. -/
def Group.isExported (target : Option String) (includeHidden : Bool) (g : Group R) : Bool :=
  let targeted :=
    match target, g.target with
    | some wanted, some own => wanted == own
    | _, _ => true
  (includeHidden || g.visible) && targeted

namespace Tracks

/-- The positions moved back by an offset. -/
def shift (offset : Vec2 R) (tracks : Tracks R) : Tracks R :=
  { tracks with
    position := Track.mapValues (fun v => v.sub offset) tracks.position
    x := Track.mapValues (fun x => x - offset.x) tracks.x
    y := Track.mapValues (fun y => y - offset.y) tracks.y }

end Tracks

/-- How many places are kept in each family of values. -/
structure Precision where
  /-- In positions and scales. -/
  move : Nat
  /-- In opacities. -/
  alpha : Nat
  /-- In angles. -/
  rotation : Nat
  deriving DecidableEq, Repr

namespace Tracks

/-- The values rounded; tints and switches stay. -/
def round (precision : Precision) (tracks : Tracks R) : Tracks R :=
  let move (x : R) : R := roundTo x precision.move
  { tracks with
    position := Track.mapValues (Vec2.map move) tracks.position
    x := Track.mapValues move tracks.x
    y := Track.mapValues move tracks.y
    scale := Track.mapValues move tracks.scale
    scaleVec := Track.mapValues (Vec2.map move) tracks.scaleVec
    opacity := Track.mapValues (fun x => roundTo x precision.alpha) tracks.opacity
    rotation := Track.mapValues (fun x => roundTo x precision.rotation) tracks.rotation }

end Tracks

namespace Sprite

/-- The sprite and its moves, moved back by an offset. -/
def shift (offset : Vec2 R) (s : Sprite R) : Sprite R :=
  let s := s.mapTracks (Tracks.shift offset)
  { s with initialPosition := s.initialPosition.sub offset }

def round (precision : Precision) (s : Sprite R) : Sprite R :=
  let s := s.mapTracks (Tracks.round precision)
  { s with initialPosition := s.initialPosition.map fun x => roundTo x precision.move }

end Sprite

namespace StepContext

/-- Changes every group. -/
def mapGroups (f : Group R → Group R) (context : StepContext R) : StepContext R :=
  { context with groups := context.groups.map f }

end StepContext

/-- Where a pipeline hands the assets of a run. -/
structure AssetStore (m : Type → Type) where
  /-- The asset root. -/
  root : String
  /-- Makes sure that the asset root is there, and says whether it is. -/
  prepare : m Bool
  /-- Makes some assets the complete set of those in use. -/
  apply : List Asset → m Unit

/-- How far a wide play area reaches beyond the usual one on the left. -/
def widescreenOffset : Vec2 R := ⟨107.0, 0.0⟩

namespace Step

variable {m : Type → Type} [Monad m]

/-- Keeps the groups of an export. -/
def filter (target : Option String) (includeHidden : Bool) : Step m R :=
  Step.transform "filter" .preGenerate fun context =>
    { context with groups := context.groups.filter (Group.isExported target includeHidden) }

/-- Moves all sprites back by an offset. -/
def widescreen (offset : Vec2 R) : Step m R :=
  Step.transform "widescreen" .postProcess
    (StepContext.mapGroups (Group.mapSprites (Sprite.shift offset)))

/-- Rounds the values of all sprites. -/
def precision (p : Precision) : Step m R :=
  Step.transform "precision" .postProcess
    (StepContext.mapGroups (Group.mapSprites (Sprite.round p)))

def rootFailure (root : String) : Failure := .other s!"create asset root '{root}'" []

/-- Prepares the store first, and hands it the assets at the end. -/
def assets (store : AssetStore m) : Step m R where
  name := "assets"
  hook
    | .preProcess => do
      let ready ← (store.prepare : m Bool)
      if ready then return () else throw (rootFailure store.root)
    | .postGenerate => do
      let context ← get
      store.apply context.assets
    | _ => return ()

end Step

namespace Pipeline

variable {m : Type → Type} [Monad m]

/-- The steps that valid settings ask for. -/
def ofConfig (config : PipelineConfig) (store : Option (AssetStore m)) : Pipeline m R :=
  [Step.filter config.exportTarget config.includeHidden] ++
    (if config.widescreen then [Step.widescreen widescreenOffset] else []) ++
    (if config.round then
      [Step.precision ⟨config.movePrecision, config.alphaPrecision, config.rotationPrecision⟩]
    else []) ++
    store.toList.map Step.assets

/-- The standard pipeline; it fails if the settings are not valid. -/
def standard (config : PipelineConfig) (store : Option (AssetStore m)) :
    Except Failure (Pipeline m R) := do
  config.validate
  return ofConfig config store

end Pipeline

end Storyboard
