import Storyboard.Placement
import Storyboard.Tracks

/-! # Sprites

An image that commands animate. Loops and triggers are opened and closed like brackets: while one
is open, commands go to it, and no other one can be opened.
-/

namespace Storyboard

/-- The kinds of blocks that hold commands of their own. -/
inductive Block where
  | loop
  | trigger
  deriving DecidableEq, Repr

/-- The word for a kind of block. -/
def Block.name : Block → String
  | .loop => "loop"
  | .trigger => "trigger"

/-- An image and its commands. -/
structure Sprite (R : Type) where
  path : String
  /-- The layer that it is drawn on. -/
  layer : Layer
  origin : Origin := default
  /-- The position while no command moves it. -/
  initialPosition : Vec2 R
  /-- The commands outside of loops and triggers. -/
  tracks : Tracks R := {}
  /-- The loops, in the order in which they were opened. -/
  loops : List (Loop R) := []
  /-- The triggers, in the order in which they were opened. -/
  triggers : List (Trigger R) := []
  /-- The block that takes commands now; it is the last one of its kind. -/
  openBlock : Option Block := none
  deriving DecidableEq, Repr

/-- A call on a sprite. -/
inductive SpriteCall (R : Type) where
  | startLoop (startTime : R) (repeatCount : Nat)
  | startTrigger (name : String) (startTime endTime : R) (group : Int)
  | endBlock
  | animate (command : PropertyCommand R)
  deriving DecidableEq, Repr

def modifyLast {α : Type} (f : α → α) : List α → List α
  | [] => []
  | [a] => [f a]
  | a :: b :: rest => a :: modifyLast f (b :: rest)

theorem modifyLast_append_singleton {α : Type} (f : α → α) (xs : List α) (a : α) :
    modifyLast f (xs ++ [a]) = xs ++ [f a] := by
  induction xs with
  | nil => rfl
  | cons x rest ih => cases rest <;> simp_all [modifyLast]

theorem length_modifyLast {α : Type} (f : α → α) (xs : List α) :
    (modifyLast f xs).length = xs.length := by
  fun_induction modifyLast f xs <;> simp_all

namespace Sprite

variable {R : Type}

/-- A sprite without commands. -/
def new (path : String) (layer : Layer) (origin : Origin) (position : Vec2 R) : Sprite R :=
  { path, layer, origin, initialPosition := position }

/-- Whether a loop or trigger is open. -/
def hasOpenBlock (s : Sprite R) : Bool := s.openBlock.isSome

/-- Fails while a block is open. -/
def requireClosed (s : Sprite R) (opening : Block) : Except Failure Unit :=
  match s.openBlock with
  | none => .ok ()
  | some block =>
    let (path, opened, wanted) := (s.path, block.name, opening.name)
    .error <| .invalidState
      s!"cannot start a {wanted} on sprite '{path}' while a {opened} is open"

/-- Opens a loop. -/
def startLoop (s : Sprite R) (startTime : R) (repeatCount : Nat) : Except Failure (Sprite R) := do
  s.requireClosed .loop
  return { s with loops := s.loops ++ [⟨startTime, repeatCount, {}⟩], openBlock := some .loop }

/-- Opens a trigger. -/
def startTrigger (s : Sprite R) (name : String) (startTime endTime : R) (group : Int) :
    Except Failure (Sprite R) := do
  s.requireClosed .trigger
  return { s with
    triggers := s.triggers ++ [⟨name, startTime, endTime, group, {}⟩]
    openBlock := some .trigger }

/-- Closes the open block. -/
def endBlock (s : Sprite R) : Except Failure (Sprite R) :=
  match s.openBlock with
  | some _ => .ok { s with openBlock := none }
  | none =>
    let path := s.path
    .error (.invalidState s!"sprite '{path}' has no open loop or trigger to end")

/-- Adds a command to the open block, or to the tracks outside of blocks. -/
def animate (s : Sprite R) (c : PropertyCommand R) : Sprite R :=
  match s.openBlock with
  | some .loop =>
    { s with loops := modifyLast (fun l => { l with tracks := l.tracks.push c }) s.loops }
  | some .trigger =>
    { s with triggers := modifyLast (fun t => { t with tracks := t.tracks.push c }) s.triggers }
  | none => { s with tracks := s.tracks.push c }

/-- Carries out a call; a call that fails gives no other sprite. -/
def call (s : Sprite R) : SpriteCall R → Except Failure (Sprite R)
  | .startLoop startTime repeatCount => s.startLoop startTime repeatCount
  | .startTrigger name startTime endTime group => s.startTrigger name startTime endTime group
  | .endBlock => s.endBlock
  | .animate c => .ok (s.animate c)

/-- Carries out calls up to the first one that fails, and says why it failed. -/
def calls (s : Sprite R) : List (SpriteCall R) → Sprite R × Option Failure
  | [] => (s, none)
  | c :: rest =>
    match s.call c with
    | .ok next => next.calls rest
    | .error e => (s, some e)

/-- Every set of tracks: outside of blocks, then of the loops, then of the triggers. -/
def allTracks (s : Sprite R) : List (Tracks R) :=
  s.tracks :: s.loops.map Loop.tracks ++ s.triggers.map Trigger.tracks

/-- Changes every set of tracks. -/
def mapTracks (f : Tracks R → Tracks R) (s : Sprite R) : Sprite R :=
  { s with
    tracks := f s.tracks
    loops := s.loops.map fun l => { l with tracks := f l.tracks }
    triggers := s.triggers.map fun t => { t with tracks := f t.tracks } }

def windows (s : Sprite R) : List (R × R) := s.allTracks.flatMap Tracks.windows

theorem allTracks_mapTracks (f : Tracks R → Tracks R) (s : Sprite R) :
    (s.mapTracks f).allTracks = s.allTracks.map f := by
  simp [allTracks, mapTracks, Function.comp_def]

variable [Scalar R]

/-- The earliest time over commands, loops and triggers. -/
def startTime? (s : Sprite R) : Option R :=
  Scalar.least? <|
    s.tracks.startTime?.toList ++ s.loops.filterMap (fun l => l.window?.map Prod.fst) ++
      s.triggers.map fun t => t.window.1

/-- The latest time over commands, loops and triggers. -/
def endTime? (s : Sprite R) : Option R :=
  Scalar.greatest? <|
    s.tracks.endTime?.toList ++ s.loops.filterMap (fun l => l.window?.map Prod.snd) ++
      s.triggers.map fun t => t.window.2

/-- Fails at the first command that runs backward: outside of blocks, in loops, in triggers. -/
def check (s : Sprite R) : Except Failure Unit := checkWindows s.windows

end Sprite

end Storyboard
