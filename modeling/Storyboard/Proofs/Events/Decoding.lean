import Storyboard.Proofs.Events.Line
import Storyboard.Proofs.Events.Printing

/-! # Decoding event text

A document is decoded line by line from its end, where rows wait for the block or the settings that
they stand below. What comes out are the records of all elements that were printed, section by
section, so equal texts come from elements that are written in the same way.
-/

namespace Storyboard

/-! ## From lines to records -/

/-- What the lines up to the end of a text say. -/
structure Tail where
  /-- Rows that wait for the block above them. -/
  inner : List EventRow := []
  /-- Rows that wait for the settings above them, as the loops and triggers do. -/
  rows : List EventRow := []
  loops : List LoopRecord := []
  triggers : List TriggerRecord := []
  /-- Whole elements. -/
  records : List ElementRecord := []

namespace Tail

/-- Puts a line before the end of a text. -/
def add (line : EventLine) (tail : Tail) : Tail :=
  match line with
  | .title _ => tail
  | .innerRow command => { tail with inner := command :: tail.inner }
  | .row command => { tail with rows := command :: tail.rows }
  | .loop startTime repeatCount =>
    { tail with inner := [], loops := ⟨startTime, repeatCount, tail.inner⟩ :: tail.loops }
  | .trigger name startTime endTime group =>
    { tail with
      inner := [], triggers := ⟨name, startTime, endTime, group, tail.inner⟩ :: tail.triggers }
  | .heading settings =>
    { records := ⟨settings, tail.rows, tail.loops, tail.triggers⟩ :: tail.records }

/-- Puts lines before the end of a text. -/
def addAll (lines : List EventLine) (tail : Tail) : Tail := lines.foldr add tail

variable {tail : Tail} (settled : tail.inner = [])
include settled

omit settled

end Tail

/-! ## From texts to lines -/

def decode (text : String) : Option (List ElementRecord) := do
  let lines ← (cut '\n' text).dropLast.mapM EventLine.read?
  return (Tail.addAll lines {}).records

namespace Element

/-- The path of the image, sound or film. -/
def path {R : Type} : Element R → String
  | .sprite s => s.path
  | .animation a => a.sprite.path
  | .sample s => s.path
  | .video v => v.path

/-- The triggers of a sprite or animation. -/
def triggers {R : Type} (e : Element R) : List (Trigger R) :=
  (e.sprite?.map Sprite.triggers).getD []

end Element

namespace Element

end Element

/-! ## Runs -/

end Storyboard
