import Storyboard.Events.Row
import Storyboard.Generation.Visit

/-! # Event text

The text that a player of storyboards reads. An element becomes a line with its settings and, for
sprites, indented lines with its commands, loops and triggers. The document has a section for the
video, one for each layer and one for samples, in which lines stand in the order of emission.
-/

namespace Storyboard

/-- A part of the document. -/
inductive Section where
  | video
  /-- The sprites and animations of a layer. -/
  | layer (layer : Layer)
  | samples
  deriving DecidableEq, Repr

def Section.name : Section → String
  | .video => "Video"
  | .layer which => "Layer(" ++ which.name ++ ")"
  | .samples => "Samples"

/-- The lines of an element and where they belong. -/
structure EventBlock where
  place : Section
  /-- The lines, each with its end. -/
  text : String
  deriving DecidableEq, Repr

variable {R : Type} [Scalar R]

def indentedLines (indentation : String) (rows : List EventRow) : String :=
  String.join (rows.map fun row => indentation ++ row.text ++ "\n")

/-- The settings that sprites and animations share. -/
def Sprite.headerText (kind : String) (s : Sprite R) : String :=
  ",".intercalate
    [kind, s.layer.name, s.origin.name, "\"" ++ s.path ++ "\"", integerText s.initialPosition.x,
      integerText s.initialPosition.y]

def Loop.text (l : Loop R) : String :=
  " L," ++ integerText l.startTime ++ "," ++ toString l.repeatCount ++ "\n" ++
    indentedLines "  " l.tracks.rows

/-- The lines of a trigger; the default group is not written. -/
def Trigger.text (t : Trigger R) : String :=
  " T," ++ t.name ++ "," ++ integerText t.startTime ++ "," ++ integerText t.endTime ++
    (if t.group = 0 then "" else "," ++ toString t.group) ++ "\n" ++
    indentedLines "  " t.tracks.rows

/-- The lines below the settings of a sprite. -/
def Sprite.bodyText (s : Sprite R) : String :=
  indentedLines " " s.tracks.rows ++ String.join (s.loops.map Loop.text) ++
    String.join (s.triggers.map Trigger.text)

def Element.headerLine : Element R → String
  | .sprite s => s.headerText "Sprite" ++ "\n"
  | .animation a =>
    a.sprite.headerText "Animation" ++ "," ++ toString a.frameCount ++ "," ++
      fractionText a.frameDelay ++ "," ++ a.frameLoop.name ++ "\n"
  | .sample s =>
    "Sample," ++ integerText s.startTime ++ "," ++ toString s.layer.index ++ ",\"" ++ s.path ++
      "\"," ++ integerText s.volume ++ "\n"
  | .video v => "Video," ++ integerText v.startTime ++ ",\"" ++ v.path ++ "\"\n"

def Element.section : Element R → Section
  | .sprite s => .layer s.layer
  | .animation a => .layer a.sprite.layer
  | .sample _ => .samples
  | .video _ => .video

/-- The lines of an element; a command that runs backward is a failure. -/
def Element.eventBlock (e : Element R) : Except Failure EventBlock :=
  match e.sprite? with
  | some s => do
    s.check
    return ⟨e.section, e.headerLine ++ s.bodyText⟩
  | none => .ok ⟨e.section, e.headerLine⟩

/-- The text of every section. -/
structure EventDocument where
  video : String := ""
  layers : PerLayer String := PerLayer.replicate ""
  samples : String := ""
  deriving DecidableEq, Repr

namespace EventDocument

/-- Appends the lines of an element to their section. -/
def append (document : EventDocument) (block : EventBlock) : EventDocument :=
  match block.place with
  | .video => { document with video := document.video ++ block.text }
  | .layer layer =>
    { document with layers := document.layers.modify (fun text => text ++ block.text) layer }
  | .samples => { document with samples := document.samples ++ block.text }

def layerTitle (layer : Layer) : String :=
  "//Storyboard Layer " ++ toString layer.index ++ " (" ++ layer.name ++ ")\n"

/-- The whole text. -/
def render (document : EventDocument) : String :=
  "[Events]\n//Background and Video events\n" ++ document.video ++
    String.join (Layer.all.map fun layer => layerTitle layer ++ document.layers.get layer) ++
    "//Storyboard Sound Samples\n" ++ document.samples

def encoder {m : Type → Type} [Monad m] : Encoder m R EventDocument EventBlock where
  start := return {}
  build e := ExceptT.mk (return e.eventBlock)
  emit document _ block := return document.append block
  finish document := return document

end EventDocument

end Storyboard
