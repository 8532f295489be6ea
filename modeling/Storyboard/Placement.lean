/-! # Where elements are drawn

Layers stack elements, origins anchor an image at its position, and frame loops say how an
animation goes on after its last frame. `PerLayer` keeps one thing for each layer.
-/

namespace Storyboard

/-- A band of the drawing order. -/
inductive Layer where
  /-- Behind everything else. -/
  | background
  /-- Shown while the player fails. -/
  | fail
  /-- Shown while the player passes. -/
  | pass
  /-- Above the other layers behind the play area. -/
  | foreground
  /-- Above the play area. -/
  | overlay
  deriving DecidableEq, Repr

namespace Layer

/-- Every layer in drawing order. -/
def all : List Layer := [background, fail, pass, foreground, overlay]

/-- The number of a layer in sample lines. -/
def index : Layer → Nat
  | background => 0
  | fail => 1
  | pass => 2
  | foreground => 3
  | overlay => 4

def name : Layer → String
  | background => "Background"
  | fail => "Fail"
  | pass => "Pass"
  | foreground => "Foreground"
  | overlay => "Overlay"

def ofName? (name : String) : Option Layer := all.find? fun layer => layer.name == name

theorem mem_all (layer : Layer) : layer ∈ all := by cases layer <;> decide

theorem ofName?_name (layer : Layer) : ofName? layer.name = some layer := by
  cases layer <;> decide

end Layer

/-- One thing for each layer. -/
structure PerLayer (α : Type) where
  background : α
  fail : α
  pass : α
  foreground : α
  overlay : α
  deriving DecidableEq, Repr

namespace PerLayer

variable {α : Type}

/-- The same thing for each layer. -/
def replicate (a : α) : PerLayer α := ⟨a, a, a, a, a⟩

def get (p : PerLayer α) : Layer → α
  | .background => p.background
  | .fail => p.fail
  | .pass => p.pass
  | .foreground => p.foreground
  | .overlay => p.overlay

/-- Changes what belongs to a layer. -/
def modify (p : PerLayer α) (f : α → α) : Layer → PerLayer α
  | .background => { p with background := f p.background }
  | .fail => { p with fail := f p.fail }
  | .pass => { p with pass := f p.pass }
  | .foreground => { p with foreground := f p.foreground }
  | .overlay => { p with overlay := f p.overlay }

@[simp] theorem get_replicate (a : α) (layer : Layer) : (replicate a).get layer = a := by
  cases layer <;> rfl

theorem get_modify (p : PerLayer α) (f : α → α) (layer other : Layer) :
    (p.modify f layer).get other = if other = layer then f (p.get other) else p.get other := by
  cases layer <;> cases other <;> rfl

end PerLayer

/-- The point of an image that lies at its position. -/
inductive Origin where
  | topLeft
  /-- The middle of the top edge. -/
  | topCentre
  | topRight
  /-- The middle of the left edge. -/
  | centreLeft
  | centre
  /-- The middle of the right edge. -/
  | centreRight
  | bottomLeft
  /-- The middle of the bottom edge. -/
  | bottomCentre
  | bottomRight
  deriving DecidableEq, Repr

namespace Origin

def all : List Origin :=
  [topLeft, topCentre, topRight, centreLeft, centre, centreRight, bottomLeft, bottomCentre,
    bottomRight]

def name : Origin → String
  | topLeft => "TopLeft"
  | topCentre => "TopCentre"
  | topRight => "TopRight"
  | centreLeft => "CentreLeft"
  | centre => "Centre"
  | centreRight => "CentreRight"
  | bottomLeft => "BottomLeft"
  | bottomCentre => "BottomCentre"
  | bottomRight => "BottomRight"

/-- An image without an origin is anchored at its middle. -/
instance : Inhabited Origin := ⟨centre⟩

def ofName? (name : String) : Option Origin := all.find? fun origin => origin.name == name

theorem ofName?_name (origin : Origin) : ofName? origin.name = some origin := by
  cases origin <;> decide

end Origin

/-- How an animation goes on after its last frame. -/
inductive FrameLoop where
  /-- It starts again. -/
  | forever
  /-- It stops on the last frame. -/
  | once
  deriving DecidableEq, Repr

namespace FrameLoop

/-- Both ways. -/
def all : List FrameLoop := [forever, once]

/-- The name in header lines. -/
def name : FrameLoop → String
  | forever => "LoopForever"
  | once => "LoopOnce"

/-- An animation starts again unless it says otherwise. -/
instance : Inhabited FrameLoop := ⟨forever⟩

def ofName? (name : String) : Option FrameLoop := all.find? fun loop => loop.name == name

theorem ofName?_name (loop : FrameLoop) : ofName? loop.name = some loop := by
  cases loop <;> decide

end FrameLoop

end Storyboard
