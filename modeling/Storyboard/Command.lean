import Storyboard.Easing
import Storyboard.Vec2
import Storyboard.Color
import Storyboard.Failure

/-! # Commands and tracks

A command moves one property from a value to another over a window of time, along an easing
curve. A track is the commands of one property in the order in which they were given. Sampling a
track takes the command that started last, in the order of windows.
-/

namespace Storyboard

variable {R V : Type}

/-- Values between which a command can move. -/
class Blend (R V : Type) where
  /-- The value at some eased progress. -/
  blend : V → V → R → V

/-- Numbers move evenly with the eased progress. -/
instance [Scalar R] : Blend R R := ⟨fun x y t => x + (y - x) * t⟩

/-- Both coordinates of a point move together. -/
instance [Scalar R] : Blend R (Vec2 R) :=
  ⟨fun v w t => ⟨v.x + t * (w.x - v.x), v.y + t * (w.y - v.y)⟩⟩

/-- The channels of a colour move together. -/
instance [Scalar R] : Blend R (Color R) := ⟨Color.blend⟩

/-- A switch keeps its first value until the command is over. -/
instance : Blend R Bool := ⟨fun x _ _ => x⟩

/-- A move of one property over a window of time, in milliseconds. -/
structure Command (R V : Type) where
  easing : Easing
  startTime : R
  endTime : R
  startValue : V
  endValue : V
  deriving DecidableEq, Repr

namespace Command

/-- The same move of other values. -/
def map {W : Type} (f : V → W) (c : Command R V) : Command R W :=
  ⟨c.easing, c.startTime, c.endTime, f c.startValue, f c.endValue⟩

def window (c : Command R V) : R × R := (c.startTime, c.endTime)

variable [Scalar R]

/-- Whether the value is set at a single instant. -/
def isInstant (c : Command R V) : Bool := Scalar.same c.startTime c.endTime

/-- The value at a time; the ends hold outside of the window. -/
def valueAt [Transcendental R] [Blend R V] (c : Command R V) (time : R) : V :=
  if time ≤ c.startTime then c.startValue
  else if c.endTime ≤ time then c.endValue
  else
    let t := (time - c.startTime) / (c.endTime - c.startTime)
    Blend.blend c.startValue c.endValue (c.easing.apply t)

/-- The window runs from its end to its start. -/
def IsBackward (c : Command R V) : Prop := c.endTime < c.startTime

instance (c : Command R V) : Decidable c.IsBackward :=
  inferInstanceAs (Decidable (c.endTime < c.startTime))

/-- The failure of a window that runs backward. -/
def backwardFailure (window : R × R) : Failure :=
  .formatViolation <|
    "command ends at " ++ Scalar.message window.2 ++ " before it starts at " ++
      Scalar.message window.1

end Command

/-- Checks windows in turn and fails at the first one that runs backward. -/
def checkWindows [Scalar R] (windows : List (R × R)) : Except Failure Unit :=
  match windows.find? fun w => decide (w.2 < w.1) with
  | some w => .error (Command.backwardFailure w)
  | none => .ok ()

theorem checkWindows_eq_ok_iff [Scalar R] (windows : List (R × R)) :
    checkWindows windows = .ok () ↔ ∀ w ∈ windows, ¬ w.2 < w.1 := by
  unfold checkWindows
  split
  · next w found =>
    have backward := List.find?_some found
    simp only [decide_eq_true_eq] at backward
    simpa using ⟨w.1, w.2, List.mem_of_find?_eq_some found, backward⟩
  · next missing => simpa using missing

/-- The commands of one property, in the order in which they were given. -/
abbrev Track (R V : Type) := List (Command R V)

namespace Track

def windows (track : Track R V) : List (R × R) := track.map Command.window

/-- Changes both values of every command. -/
def mapValues {W : Type} (f : V → W) (track : Track R V) : Track R W := track.map (Command.map f)

variable [Scalar R]

/-- The earliest start. -/
def startTime? (track : Track R V) : Option R := Scalar.least? (track.map Command.startTime)

/-- The latest end. -/
def endTime? (track : Track R V) : Option R := Scalar.greatest? (track.map Command.endTime)

/-- The commands by window; those of one window keep their order. -/
def sorted (track : Track R V) : List (Command R V) :=
  track.mergeSort fun c d => Scalar.windowLE c.window d.window

/-- The value at a time: of the last command that has started, or else the first value. -/
def valueAt? [Transcendental R] [Blend R V] (track : Track R V) (time : R) : Option V :=
  match sorted track with
  | [] => none
  | first :: rest =>
    if time < first.startTime then some first.startValue
    else
      let started := (first :: rest).reverse.find? fun c => decide (c.startTime ≤ time)
      some ((started.getD first).valueAt time)

theorem length_sorted (track : Track R V) : (sorted track).length = track.length := by
  simp [sorted]

theorem mem_sorted (track : Track R V) (c : Command R V) : c ∈ sorted track ↔ c ∈ track := by
  simp [sorted]

end Track

end Storyboard
