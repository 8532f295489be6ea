import Storyboard.Json.Reader
import Storyboard.Json.Record
import Storyboard.Number.Double
import Storyboard.Project.Basic

/-! # Reading projects

The fields of every type in a project. Elements are read ahead as a whole before their type is
known: all of their parts have to be sound, and their nesting counts in full against the limit
that texts have. A value that is held outside of a text has no such limit, but there the parts of
an image go by their names alone and never stand in a row.
-/

namespace Storyboard

namespace ProjectReader

/-- How deeply arrays and objects may be nested in a text. -/
def depthLimit : Nat := 127

/-- Where a value stands. -/
inductive Setting where
  /-- In a text, inside of so many arrays and objects. -/
  | text (outer : Nat)
  /-- On its own, outside of any text. -/
  | held
  deriving DecidableEq, Repr

namespace Setting

/-- The setting of a value so many arrays and objects further inside. -/
def inner (levels : Nat) : Setting → Setting
  | .text outer => .text (outer + levels)
  | .held => .held

/-- Whether a value nested so deeply can stand in a setting. -/
def admits (depth : Nat) : Setting → Bool
  | .text outer => depth + outer ≤ depthLimit
  | .held => true

theorem inner_inner (first second : Nat) (setting : Setting) :
    (setting.inner first).inner second = setting.inner (first + second) := by
  cases setting <;> simp [inner, Nat.add_assoc]

end Setting

/-- The names of enumerations; `ahead` says whether the data is read ahead. -/
def easing? (ahead : Bool) : Json → Option Easing := Json.named? ahead Easing.ofName?

def layer? (ahead : Bool) : Json → Option Layer := Json.named? ahead Layer.ofName?

def origin? (ahead : Bool) : Json → Option Origin := Json.named? ahead Origin.ofName?

def frameLoop? (ahead : Bool) : Json → Option FrameLoop := Json.named? ahead FrameLoop.ofName?

/-- A point. -/
def vec2? (value : Json) : Option (Vec2 Double) := do
  let fields ← RecordShape.read ⟨["x", "y"], false⟩ value
  return ⟨← fields.required "x" Json.double?, ← fields.required "y" Json.double?⟩

/-- A colour. -/
def color? (value : Json) : Option (Color Double) := do
  let fields ← RecordShape.read ⟨["r", "g", "b"], false⟩ value
  return ⟨← fields.required "r" Json.double?, ← fields.required "g" Json.double?,
    ← fields.required "b" Json.double?⟩

def command? {V : Type} (ahead : Bool) (readValue : Json → Option V) (value : Json) :
    Option (Command Double V) := do
  let fields ← RecordShape.read
    ⟨["easing", "start_time", "end_time", "start_value", "end_value"], false⟩ value
  return {
    easing := ← fields.optional "easing" default (easing? ahead)
    startTime := ← fields.required "start_time" Json.double?
    endTime := ← fields.required "end_time" Json.double?
    startValue := ← fields.required "start_value" readValue
    endValue := ← fields.required "end_value" readValue }

/-- The commands of a property. -/
def track? {V : Type} (ahead : Bool) (readValue : Json → Option V) (value : Json) :
    Option (Track Double V) :=
  value.list? (command? ahead readValue)

def tracks? (ahead : Bool) (value : Json) : Option (Tracks Double) := do
  let fields ← RecordShape.read
    ⟨["position", "x", "y", "scale", "scale_vec", "rotation", "color", "opacity", "additive",
      "flip_h", "flip_v"], false⟩ value
  let numbers (name : String) : Option (Track Double Double) :=
    fields.optional name [] (track? ahead Json.double?)
  let points (name : String) : Option (Track Double (Vec2 Double)) :=
    fields.optional name [] (track? ahead vec2?)
  let switches (name : String) : Option (Track Double Bool) :=
    fields.optional name [] (track? ahead Json.bool?)
  return {
    position := ← points "position"
    x := ← numbers "x"
    y := ← numbers "y"
    scale := ← numbers "scale"
    scaleVec := ← points "scale_vec"
    rotation := ← numbers "rotation"
    color := ← fields.optional "color" [] (track? ahead color?)
    opacity := ← numbers "opacity"
    additive := ← switches "additive"
    flipH := ← switches "flip_h"
    flipV := ← switches "flip_v" }

def loop? (ahead : Bool) (value : Json) : Option (Loop Double) := do
  let fields ← RecordShape.read ⟨["start_time", "repeat_count", "timeline"], false⟩ value
  return {
    startTime := ← fields.required "start_time" Json.double?
    repeatCount := ← fields.required "repeat_count" (Json.nat? 32)
    tracks := ← fields.optional "timeline" {} (tracks? ahead) }

def trigger? (ahead : Bool) (value : Json) : Option (Trigger Double) := do
  let fields ← RecordShape.read
    ⟨["name", "start_time", "end_time", "group", "timeline"], false⟩ value
  return {
    name := ← fields.required "name" Json.string?
    startTime := ← fields.required "start_time" Json.double?
    endTime := ← fields.required "end_time" Json.double?
    group := ← fields.optional "group" 0 (Json.int? (-0x80000000) 0x7FFFFFFF)
    tracks := ← fields.optional "timeline" {} (tracks? ahead) }

def spriteShape : RecordShape :=
  ⟨["path", "layer", "origin", "initial_position", "timeline", "loops", "triggers"], false⟩

def spriteOf? (ahead : Bool) (fields : Fields) : Option (Sprite Double) := do
  return {
    path := ← fields.required "path" Json.string?
    layer := ← fields.required "layer" (layer? ahead)
    origin := ← fields.optional "origin" default (origin? ahead)
    initialPosition := ← fields.optional "initial_position" Vec2.centre vec2?
    tracks := ← fields.optional "timeline" {} (tracks? ahead)
    loops := ← fields.optional "loops" [] (Json.list? (loop? ahead))
    triggers := ← fields.optional "triggers" [] (Json.list? (trigger? ahead)) }

def sprite? (ahead : Bool) (value : Json) : Option (Sprite Double) :=
  (spriteShape.read value).bind (spriteOf? ahead)

/-- The fields of an animation beside those of its sprite. -/
def framesShape : RecordShape := ⟨["frame_count", "frame_delay", "loop_type"], false⟩

/-- An animation, whose fields stand beside those of its sprite and not in a row. -/
def animation? (ahead : Bool) : Json → Option (Animation Double)
  | .object members => do
    let own ← framesShape.ofMembers members []
    let sprite ← spriteShape.ofMembers members []
    return {
      frameCount := ← own.required "frame_count" (Json.nat? 32)
      frameDelay := ← own.required "frame_delay" Json.double?
      frameLoop := ← own.optional "loop_type" default (frameLoop? ahead)
      sprite := ← spriteOf? ahead sprite }
  | _ => none

def sample? (ahead : Bool) (value : Json) : Option (Sample Double) := do
  let fields ← RecordShape.read ⟨["path", "layer", "start_time", "volume"], false⟩ value
  return {
    path := ← fields.required "path" Json.string?
    layer := ← fields.required "layer" (layer? ahead)
    startTime := ← fields.required "start_time" Json.double?
    volume := ← fields.optional "volume" 100.0 Json.double? }

def video? (value : Json) : Option (Video Double) := do
  let fields ← RecordShape.read ⟨["path", "start_time"], false⟩ value
  return ⟨← fields.required "path" Json.string?, ← fields.required "start_time" Json.double?⟩

def elementOf? (type : String) (value : Json) : Option (Element Double) :=
  match type with
  | "sprite" => (sprite? true value).map .sprite
  | "animation" => (animation? true value).map .animation
  | "sample" => (sample? true value).map .sample
  | "video" => (video? value).map .video
  | _ => none

/-- The only type among members, and the members beside it. -/
def splitType? (members : List (Option String × Json)) :
    Option (String × List (Option String × Json)) :=
  match members.partition fun m => m.1 == some "type" with
  | ([(_, .string (some type))], rest) => some (type, rest)
  | _ => none

def element? (setting : Setting) (value : Json) : Option (Element Double) :=
  if value.isSound && setting.admits value.depth then
    match value with
    | .object members => do
      let (type, rest) ← splitType? members
      elementOf? type (.object rest)
    | .array (.string (some type) :: rest) => elementOf? type (.array rest)
    | _ => none
  else none

/-- A group, the elements of which stand two levels deeper. -/
def group? (setting : Setting) (value : Json) : Option (Group Double) := do
  let fields ← RecordShape.read ⟨["name", "target", "visible", "elements"], false⟩ value
  return {
    name := ← fields.required "name" Json.string?
    target := ← fields.optional "target" none (Json.option? Json.string?)
    visible := ← fields.optional "visible" true Json.bool?
    elements := ← fields.optional "elements" [] (Json.list? (element? (setting.inner 2))) }

/-- A colour by four bytes. -/
def rgba? (value : Json) : Option Rgba :=
  match value.list? (Json.nat? 8) with
  | some [r, g, b, a] => some ⟨r.toUInt8, g.toUInt8, b.toUInt8, a.toUInt8⟩
  | _ => none

/-- A filled rectangle. -/
def solid? (value : Json) : Option AssetSource := do
  let fields ← RecordShape.read ⟨["width", "height", "rgba"], false⟩ value
  return .solid (← fields.required "width" (Json.nat? 32))
    (← fields.required "height" (Json.nat? 32)) (← fields.required "rgba" rgba?)

/-- A line of text. -/
def lettering? (value : Json) : Option AssetSource := do
  let fields ← RecordShape.read ⟨["text", "font", "size_px", "rgba"], false⟩ value
  return .lettering (← fields.required "text" Json.string?)
    (← fields.required "font" Json.string?) (← fields.required "size_px" Json.single?)
    (← fields.optional "rgba" Rgba.white rgba?)

/-- Whether the parts of an image can be read from a value in a setting. -/
def holdsParts (setting : Setting) (value : Json) : Bool :=
  match setting, value with
  | .held, .object _ => true
  | .held, _ => false
  | .text _, _ => true

/-- How an image is made. -/
def source? (setting : Setting) : Json → Option AssetSource
  | .object [(some kind, value)] =>
    if holdsParts setting value then
      match kind with
      | "solid" => solid? value
      | "text" => lettering? value
      | _ => none
    else none
  | _ => none

def assetRequest? (setting : Setting) (value : Json) : Option AssetRequest := do
  let fields ← RecordShape.read ⟨["path", "source"], false⟩ value
  return ⟨← fields.required "path" Json.string?, ← fields.required "source" (source? setting)⟩

def script? (setting : Setting) (value : Json) : Option (DeclaredScript Double) := do
  let fields ← RecordShape.read ⟨["name", "groups", "assets"], false⟩ value
  return {
    name := ← fields.required "name" Json.string?
    groups := ← fields.optional "groups" [] (Json.list? (group? (setting.inner 2)))
    assets := ← fields.optional "assets" [] (Json.list? (assetRequest? setting)) }

/-- The settings. -/
def config? (value : Json) : Option PipelineConfig := do
  let fields ← RecordShape.read
    ⟨["export_target", "include_hidden", "widescreen", "move_precision", "alpha_precision",
      "rotation_precision", "round"], true⟩ value
  return {
    exportTarget := ← fields.optional "export_target" none (Json.option? Json.string?)
    includeHidden := ← fields.optional "include_hidden" false Json.bool?
    widescreen := ← fields.optional "widescreen" false Json.bool?
    movePrecision := ← fields.optional "move_precision" 4 (Json.nat? 32)
    alphaPrecision := ← fields.optional "alpha_precision" 4 (Json.nat? 32)
    rotationPrecision := ← fields.optional "rotation_precision" 4 (Json.nat? 32)
    round := ← fields.optional "round" true Json.bool? }

def project? (value : Json) : Option (Project Double) := do
  let fields ← RecordShape.read ⟨["config", "group_order", "scripts"], true⟩ value
  return {
    config := ← fields.optional "config" {} config?
    groupOrder := ← fields.optional "group_order" none
      (Json.option? (Json.list? Json.string?))
    scripts := ← fields.optional "scripts" [] (Json.list? (script? (.text 2))) }

end ProjectReader

namespace Project

def malformed : Failure := .serialization "the text is not a project"

/-- The project that a value holds, checked. -/
def ofJson (value : Json) : Except Failure (Project Double) :=
  match ProjectReader.project? value with
  | some project => do
    project.validate
    return project
  | none => .error malformed

/-- The project that the bytes of a text spell, checked. -/
def ofBytes (bytes : ByteArray) : Except Failure (Project Double) :=
  match Json.ofBytes? bytes with
  | some value => ofJson value
  | none => .error malformed

/-- The project that a text spells, checked. -/
def ofText (text : String) : Except Failure (Project Double) := ofBytes text.toUTF8

end Project

end Storyboard
