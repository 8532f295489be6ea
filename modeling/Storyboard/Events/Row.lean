import Storyboard.Number.Rounding
import Storyboard.Element

/-! # Rows of event text

A command becomes a row: the code of its property, its easing, its window and its values, with
numbers already written. A row leaves out an end that is written like the start. The rows of a
block are in order of time; rows of one window keep the order of properties.
-/

namespace Storyboard

/-- A command as it is written. -/
structure EventRow where
  code : String
  easing : Nat
  start : String
  stop : String
  fromValue : String
  toValue : String
  deriving DecidableEq, Repr

namespace EventRow

/-- The end of the window, left blank if it is written like the start. -/
def stopText (row : EventRow) : String := if row.stop = row.start then "" else row.stop

/-- The values, with the second one left out if it is written like the first. -/
def valuesText (row : EventRow) : String :=
  if row.toValue = row.fromValue then row.fromValue else row.fromValue ++ "," ++ row.toValue

/-- The line of a row, without indentation. -/
def text (row : EventRow) : String :=
  row.code ++ "," ++ toString row.easing ++ "," ++ row.start ++ "," ++ row.stopText ++ "," ++
    row.valuesText

end EventRow

variable {R V : Type} [Scalar R]

/-- A row with the window that places it. -/
abbrev TimedRow (R : Type) := (R × R) × EventRow

def EventRow.of (code : String) (write : V → String) (c : Command R V) : TimedRow R :=
  (c.window,
    { code, easing := c.easing.code
      start := integerText c.startTime, stop := integerText c.endTime
      fromValue := write c.startValue, toValue := write c.endValue })

/-- A point written as integers. -/
def Vec2.integerText (v : Vec2 R) : String :=
  Storyboard.integerText v.x ++ "," ++ Storyboard.integerText v.y

/-- A pair of factors. -/
def Vec2.fractionText (v : Vec2 R) : String :=
  Storyboard.fractionText v.x ++ "," ++ Storyboard.fractionText v.y

/-- A colour written as integers. -/
def Color.integerText (c : Color R) : String :=
  Storyboard.integerText c.r ++ "," ++ Storyboard.integerText c.g ++ "," ++
    Storyboard.integerText c.b

namespace Tracks

/-- The rows of all commands in the order of properties. -/
def timedRows (tracks : Tracks R) : List (TimedRow R) :=
  tracks.position.map (EventRow.of "M" Vec2.integerText) ++
    tracks.x.map (EventRow.of "MX" integerText) ++
    tracks.y.map (EventRow.of "MY" integerText) ++
    tracks.scale.map (EventRow.of "S" fractionText) ++
    tracks.scaleVec.map (EventRow.of "V" Vec2.fractionText) ++
    tracks.rotation.map (EventRow.of "R" fractionText) ++
    tracks.opacity.map (EventRow.of "F" fractionText) ++
    tracks.color.map (EventRow.of "C" Color.integerText) ++
    tracks.flipH.map (EventRow.of "P" fun _ => "H") ++
    tracks.flipV.map (EventRow.of "P" fun _ => "V") ++
    tracks.additive.map (EventRow.of "P" fun _ => "A")

/-- The rows of all commands in order of time. -/
def rows (tracks : Tracks R) : List EventRow :=
  (tracks.timedRows.mergeSort fun a b => Scalar.windowLE a.1 b.1).map Prod.snd

theorem length_rows (tracks : Tracks R) : tracks.rows.length = tracks.commandCount := by
  simp [rows, timedRows, commandCount]
  omega

end Tracks

end Storyboard
