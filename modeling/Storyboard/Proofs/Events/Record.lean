import Storyboard.Events.Document

/-! # What event text says

A record is an element as the format writes it: numbers are texts already, and commands are rows in
order of time. The lines of a record are what the text of the element consists of, and the lines of
a document are those of its records, section by section, below the titles.
-/

namespace Storyboard

/-- The settings that sprites and animations share, as they are written. -/
structure SpriteSettings where
  layer : Layer
  origin : Origin
  path : String
  x : String
  y : String
  deriving DecidableEq, Repr

/-- The settings of an element, as they are written. -/
inductive ElementHeading where
  | sprite (settings : SpriteSettings)
  | animation (settings : SpriteSettings) (frameCount : Nat) (frameDelay : String)
    (frameLoop : FrameLoop)
  | sample (startTime : String) (layer : Layer) (path volume : String)
  | video (startTime path : String)
  deriving DecidableEq, Repr

/-- A loop as it is written. -/
structure LoopRecord where
  startTime : String
  repeatCount : Nat
  rows : List EventRow
  deriving DecidableEq, Repr

/-- A trigger as it is written. -/
structure TriggerRecord where
  name : String
  startTime : String
  endTime : String
  group : Int
  rows : List EventRow
  deriving DecidableEq, Repr

/-- An element as it is written. -/
structure ElementRecord where
  heading : ElementHeading
  /-- The commands outside of blocks. -/
  rows : List EventRow := []
  loops : List LoopRecord := []
  triggers : List TriggerRecord := []
  deriving DecidableEq, Repr

/-- A line of event text by what it says. -/
inductive EventLine where
  /-- A line about no element. -/
  | title (words : String)
  | heading (settings : ElementHeading)
  | row (command : EventRow)
  /-- A command in a loop or trigger. -/
  | innerRow (command : EventRow)
  | loop (startTime : String) (repeatCount : Nat)
  | trigger (name startTime endTime : String) (group : Int)
  deriving DecidableEq, Repr

/-! ## Texts -/

def ElementHeading.section : ElementHeading → Section
  | .sprite settings => .layer settings.layer
  | .animation settings _ _ _ => .layer settings.layer
  | .sample .. => .samples
  | .video .. => .video

namespace ElementHeading

/-- The path of the image, sound or film. -/
def path : ElementHeading → String
  | sprite settings => settings.path
  | animation settings _ _ _ => settings.path
  | sample _ _ path _ => path
  | video _ path => path

/-- The fields before the path, the first of which is the kind. -/
def before : ElementHeading → List String
  | sprite settings => ["Sprite", settings.layer.name, settings.origin.name]
  | animation settings _ _ _ => ["Animation", settings.layer.name, settings.origin.name]
  | sample startTime layer _ _ => ["Sample", startTime, toString layer.index]
  | video startTime _ => ["Video", startTime]

/-- The fields after the path. -/
def after : ElementHeading → List String
  | sprite settings => [settings.x, settings.y]
  | animation settings frameCount frameDelay frameLoop =>
    [settings.x, settings.y, toString frameCount, frameDelay, frameLoop.name]
  | sample _ _ _ volume => [volume]
  | video .. => []

/-- The line, in which only the path is quoted. -/
def text (heading : ElementHeading) : String :=
  "\"".intercalate
    [",".intercalate (heading.before ++ [""]), heading.path, ",".intercalate ("" :: heading.after)]

end ElementHeading

namespace EventLine

/-- The fields that tell the group of a trigger; the default one is left out. -/
def groupFields (group : Int) : List String := if group = 0 then [] else [toString group]

/-- A line without its end. -/
def text : EventLine → String
  | title words => words
  | heading settings => settings.text
  | row command => " " ++ command.text
  | innerRow command => "  " ++ command.text
  | loop startTime repeatCount => " " ++ ",".intercalate ["L", startTime, toString repeatCount]
  | trigger name startTime endTime group =>
    " " ++ ",".intercalate (["T", name, startTime, endTime] ++ groupFields group)

end EventLine

def unlines (lines : List EventLine) : String :=
  String.join (lines.map fun line => line.text ++ "\n")

@[simp] theorem unlines_nil : unlines [] = "" := rfl

@[simp] theorem unlines_cons (line : EventLine) (rest : List EventLine) :
    unlines (line :: rest) = line.text ++ "\n" ++ unlines rest := String.join_cons

@[simp] theorem unlines_append (first second : List EventLine) :
    unlines (first ++ second) = unlines first ++ unlines second := by
  rw [unlines, List.map_append, String.join_append]
  rfl

/-- The lines of parts in turn. -/
theorem join_map_eq_unlines {α : Type} {text : α → String} {lines : α → List EventLine}
    (each : ∀ a, text a = unlines (lines a)) (parts : List α) :
    String.join (parts.map text) = unlines (parts.flatMap lines) := by
  induction parts with
  | nil => rfl
  | cons part rest ih =>
    rw [List.map_cons, String.join_cons, each, ih, List.flatMap_cons, unlines_append]

/-! ## Lines of a record -/

def LoopRecord.lines (l : LoopRecord) : List EventLine :=
  .loop l.startTime l.repeatCount :: l.rows.map .innerRow

def TriggerRecord.lines (t : TriggerRecord) : List EventLine :=
  .trigger t.name t.startTime t.endTime t.group :: t.rows.map .innerRow

def ElementRecord.section (record : ElementRecord) : Section := record.heading.section

def ElementRecord.lines (record : ElementRecord) : List EventLine :=
  .heading record.heading :: record.rows.map .row ++
    record.loops.flatMap LoopRecord.lines ++ record.triggers.flatMap TriggerRecord.lines

variable {R : Type} [Scalar R]

def Sprite.settings (s : Sprite R) : SpriteSettings :=
  ⟨s.layer, s.origin, s.path, integerText s.initialPosition.x, integerText s.initialPosition.y⟩

def Loop.record (l : Loop R) : LoopRecord := ⟨integerText l.startTime, l.repeatCount, l.tracks.rows⟩

def Trigger.record (t : Trigger R) : TriggerRecord :=
  ⟨t.name, integerText t.startTime, integerText t.endTime, t.group, t.tracks.rows⟩

/-- A sprite below its settings, as it is written. -/
def Sprite.record (s : Sprite R) (heading : ElementHeading) : ElementRecord :=
  ⟨heading, s.tracks.rows, s.loops.map Loop.record, s.triggers.map Trigger.record⟩

def Element.record : Element R → ElementRecord
  | .sprite s => s.record (.sprite s.settings)
  | .animation a =>
    a.sprite.record
      (.animation a.sprite.settings a.frameCount (fractionText a.frameDelay) a.frameLoop)
  | .sample s => { heading := .sample (integerText s.startTime) s.layer s.path
                                (integerText s.volume) }
  | .video v => { heading := .video (integerText v.startTime) v.path }

theorem Element.section_record (e : Element R) : e.record.section = e.section := by
  cases e <;> rfl

/-- Separators that stand next to each other may be read as one text. -/
theorem append_append_of_eq {a b c : String} (joined : a ++ b = c) (rest : String) :
    a ++ (b ++ rest) = c ++ rest := by
  rw [← String.append_assoc, joined]

theorem indentedLines_eq_unlines {indentation : String} {line : EventRow → EventLine}
    (indented : ∀ row, (line row).text = indentation ++ row.text) (rows : List EventRow) :
    indentedLines indentation rows = unlines (rows.map line) := by
  simp [indentedLines, unlines, Function.comp_def, indented]

theorem indentedLines_row (rows : List EventRow) :
    indentedLines " " rows = unlines (rows.map .row) := indentedLines_eq_unlines (fun _ => rfl) rows

theorem indentedLines_innerRow (rows : List EventRow) :
    indentedLines "  " rows = unlines (rows.map .innerRow) :=
  indentedLines_eq_unlines (fun _ => rfl) rows

theorem Loop.text_eq_unlines (l : Loop R) : l.text = unlines l.record.lines := by
  unfold Loop.text
  simp [indentedLines_innerRow, LoopRecord.lines, Loop.record, EventLine.text,
    String.append_assoc, append_append_of_eq (rfl : " " ++ "L," = " L,")]

theorem Trigger.text_eq_unlines (t : Trigger R) : t.text = unlines t.record.lines := by
  unfold Trigger.text
  simp only [indentedLines_innerRow, TriggerRecord.lines, Trigger.record, unlines_cons,
    EventLine.text, EventLine.groupFields]
  split <;> simp [String.append_assoc, append_append_of_eq (rfl : " " ++ "T," = " T,")]

theorem Element.headerLine_eq (e : Element R) :
    e.headerLine = e.record.heading.text ++ "\n" := by
  unfold headerLine Sprite.headerText
  cases e <;>
    simp [record, Sprite.record, Sprite.settings, ElementHeading.text, ElementHeading.before,
      ElementHeading.path, ElementHeading.after,
      String.append_assoc, append_append_of_eq (rfl : "," ++ "\"" = ",\""),
      append_append_of_eq (rfl : "\"" ++ "," = "\",")]

theorem Sprite.bodyText_eq_unlines (s : Sprite R) (heading : ElementHeading) :
    heading.text ++ "\n" ++ s.bodyText = unlines (s.record heading).lines := by
  unfold Sprite.bodyText
  simp [indentedLines_row, join_map_eq_unlines Loop.text_eq_unlines,
    join_map_eq_unlines Trigger.text_eq_unlines, ElementRecord.lines, Sprite.record,
    List.flatMap_map, EventLine.text, String.append_assoc]

/-- What is built for an element if no command runs backward. -/
def Element.block (e : Element R) : EventBlock := ⟨e.section, unlines e.record.lines⟩

theorem Element.headerLine_append_bodyText (e : Element R) :
    e.headerLine ++ (e.sprite?.map Sprite.bodyText).getD "" = unlines e.record.lines := by
  rw [headerLine_eq]
  cases e with
  | sprite s => exact s.bodyText_eq_unlines _
  | animation a => exact a.sprite.bodyText_eq_unlines _
  | sample s => simp [sprite?, record, ElementRecord.lines, EventLine.text]
  | video v => simp [sprite?, record, ElementRecord.lines, EventLine.text]

/-! ## Lines of a document -/

/-- Every section in the order of the text. -/
def Section.all : List Section := .video :: Layer.all.map .layer ++ [.samples]

def Section.titles : Section → List String
  | .video => ["[Events]", "//Background and Video events"]
  | .layer which => ["//Storyboard Layer " ++ toString which.index ++ " (" ++ which.name ++ ")"]
  | .samples => ["//Storyboard Sound Samples"]

def Section.select (place : Section) (records : List ElementRecord) : List ElementRecord :=
  records.filter fun record => record.section = place

def Section.lines (place : Section) (records : List ElementRecord) : List EventLine :=
  place.titles.map .title ++ (place.select records).flatMap ElementRecord.lines

namespace EventDocument

def get (document : EventDocument) : Section → String
  | .video => document.video
  | .layer layer => document.layers.get layer
  | .samples => document.samples

/-- A block only goes to the end of its section. -/
theorem get_append (document : EventDocument) (block : EventBlock) (place : Section) :
    (document.append block).get place =
      document.get place ++ if block.place = place then block.text else "" := by
  obtain ⟨target, text⟩ := block
  cases target <;> cases place <;> simp only [append, get, PerLayer.get_modify, reduceCtorEq,
    Section.layer.injEq, if_true, if_false, String.append_empty]
  next target here =>
    by_cases same : here = target
    · simp [same]
    · simp [same, Ne.symm same]

/-- A section has the lines of its elements in the order in which they are appended. -/
theorem get_foldl_append (elements : List (Element R)) (document : EventDocument)
    (place : Section) :
    (elements.foldl (fun d e => append d e.block) document).get place =
      document.get place ++
        unlines ((place.select (elements.map Element.record)).flatMap ElementRecord.lines) := by
  induction elements generalizing document with
  | nil => simp [Section.select]
  | cons e rest ih =>
    rw [List.foldl_cons, ih, get_append, String.append_assoc]
    congr 1
    simp only [Section.select, List.map_cons, List.filter_cons, Element.section_record,
      Element.block]
    by_cases here : e.section = place <;> simp [here]

end EventDocument

end Storyboard
