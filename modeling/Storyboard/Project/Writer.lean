import Storyboard.Json.Value
import Storyboard.Preview.Graph
import Storyboard.Project.Basic

/-! # Writing projects and previews

The fields of every type in the order in which they are written. Properties without commands, and
loops, triggers and assets where there are none, are left out of projects; a preview has them all.
-/

namespace Storyboard

/-- A member that is left out if there is nothing to write. -/
def memberIf (present : Bool) (name : String) (value : Json) : List (String × Json) :=
  if present then [(name, value)] else []

namespace Vec2

/-- A point. -/
def toJson (v : Vec2 Double) : Json := .record [("x", .double v.x), ("y", .double v.y)]

end Vec2

namespace Color

/-- A colour. -/
def toJson (c : Color Double) : Json :=
  .record [("r", .double c.r), ("g", .double c.g), ("b", .double c.b)]

end Color

namespace Command

variable {V : Type}

def toJson (write : V → Json) (c : Command Double V) : Json :=
  .record [("easing", .text c.easing.name), ("start_time", .double c.startTime),
    ("end_time", .double c.endTime), ("start_value", write c.startValue),
    ("end_value", write c.endValue)]

end Command

namespace Track

variable {V : Type}

/-- The commands of a property. -/
def toJson (write : V → Json) (track : Track Double V) : Json :=
  .array (track.map (Command.toJson write))

/-- A property that is left out if it has no commands. -/
def member (name : String) (write : V → Json) (track : Track Double V) : List (String × Json) :=
  memberIf (!track.isEmpty) name (toJson write track)

end Track

namespace Tracks

/-- The properties that have commands. -/
def toJson (tracks : Tracks Double) : Json :=
  .record (Track.member "position" Vec2.toJson tracks.position ++
    Track.member "x" .double tracks.x ++
    Track.member "y" .double tracks.y ++
    Track.member "scale" .double tracks.scale ++
    Track.member "scale_vec" Vec2.toJson tracks.scaleVec ++
    Track.member "rotation" .double tracks.rotation ++
    Track.member "color" Color.toJson tracks.color ++
    Track.member "opacity" .double tracks.opacity ++
    Track.member "additive" .bool tracks.additive ++
    Track.member "flip_h" .bool tracks.flipH ++
    Track.member "flip_v" .bool tracks.flipV)

end Tracks

def Loop.toJson (l : Loop Double) : Json :=
  .record [("start_time", .double l.startTime), ("repeat_count", .nat l.repeatCount),
    ("timeline", l.tracks.toJson)]

def Trigger.toJson (t : Trigger Double) : Json :=
  .record [("name", .text t.name), ("start_time", .double t.startTime),
    ("end_time", .double t.endTime), ("group", .number (.integer t.group)),
    ("timeline", t.tracks.toJson)]

def Sprite.members (s : Sprite Double) : List (String × Json) :=
  [("path", .text s.path), ("layer", .text s.layer.name), ("origin", .text s.origin.name),
    ("initial_position", s.initialPosition.toJson), ("timeline", s.tracks.toJson)] ++
    memberIf (!s.loops.isEmpty) "loops" (.array (s.loops.map Loop.toJson)) ++
    memberIf (!s.triggers.isEmpty) "triggers" (.array (s.triggers.map Trigger.toJson))

def Element.toJson : Element Double → Json
  | .sprite s => .record (("type", .text "sprite") :: s.members)
  | .animation a =>
    .record (("type", .text "animation") :: a.sprite.members ++
      [("frame_count", .nat a.frameCount), ("frame_delay", .double a.frameDelay),
        ("loop_type", .text a.frameLoop.name)])
  | .sample s =>
    .record [("type", .text "sample"), ("path", .text s.path), ("layer", .text s.layer.name),
      ("start_time", .double s.startTime), ("volume", .double s.volume)]
  | .video v =>
    .record [("type", .text "video"), ("path", .text v.path), ("start_time", .double v.startTime)]

def Group.toJson (g : Group Double) : Json :=
  .record ([("name", .text g.name)] ++
    memberIf g.target.isSome "target" (.text (g.target.getD "")) ++
    [("visible", .bool g.visible), ("elements", .array (g.elements.map Element.toJson))])

/-- A colour by four bytes. -/
def Rgba.toJson (c : Rgba) : Json := .array (c.channels.map fun n => .nat n.toNat)

/-- How an image is made. -/
def AssetSource.toJson : AssetSource → Json
  | .solid width height rgba =>
    .record [("solid", .record [("width", .nat width), ("height", .nat height),
      ("rgba", rgba.toJson)])]
  | .lettering text font sizePx rgba =>
    .record [("text", .record [("text", .text text), ("font", .text font),
      ("size_px", .number (.single sizePx)), ("rgba", rgba.toJson)])]

def AssetRequest.toJson (request : AssetRequest) : Json :=
  .record [("path", .text request.path), ("source", request.source.toJson)]

def Asset.toJson (asset : Asset) : Json :=
  .record [("path", .text asset.path), ("source", asset.source.toJson),
    ("content_hash", .text asset.contentHash)]

def DeclaredScript.toJson (script : DeclaredScript Double) : Json :=
  .record ([("name", .text script.name), ("groups", .array (script.groups.map Group.toJson))] ++
    memberIf (!script.assets.isEmpty) "assets" (.array (script.assets.map AssetRequest.toJson)))

/-- The settings. -/
def PipelineConfig.toJson (config : PipelineConfig) : Json :=
  .record (memberIf config.exportTarget.isSome "export_target"
      (.text (config.exportTarget.getD "")) ++
    [("include_hidden", .bool config.includeHidden), ("widescreen", .bool config.widescreen),
      ("move_precision", .nat config.movePrecision),
      ("alpha_precision", .nat config.alphaPrecision),
      ("rotation_precision", .nat config.rotationPrecision), ("round", .bool config.round)])

def Project.toJson (project : Project Double) : Json :=
  .record ([("config", project.config.toJson)] ++
    memberIf project.groupOrder.isSome "group_order"
      (.array ((project.groupOrder.getD []).map .text)) ++
    [("scripts", .array (project.scripts.map DeclaredScript.toJson))])

def NodeTracks.toJson (tracks : NodeTracks Double) : Json :=
  .record [("x", Track.toJson .double tracks.x), ("y", Track.toJson .double tracks.y),
    ("scale", Track.toJson .double tracks.scale),
    ("scale_vec", Track.toJson Vec2.toJson tracks.scaleVec),
    ("rotation", Track.toJson .double tracks.rotation),
    ("color", Track.toJson Color.toJson tracks.color),
    ("opacity", Track.toJson .double tracks.opacity),
    ("additive", Track.toJson .bool tracks.additive),
    ("flip_h", Track.toJson .bool tracks.flipH), ("flip_v", Track.toJson .bool tracks.flipV)]

def NodeLoop.toJson (l : NodeLoop Double) : Json :=
  .record [("start_time", .double l.startTime), ("repeat_count", .nat l.repeatCount),
    ("timeline", l.tracks.toJson)]

def NodeTrigger.toJson (t : NodeTrigger Double) : Json :=
  .record [("name", .text t.name), ("start_time", .double t.startTime),
    ("end_time", .double t.endTime), ("group", .number (.integer t.group)),
    ("timeline", t.tracks.toJson)]

/-- The images of an animated node. -/
def Frames.toJson (frames : Frames Double) : Json :=
  .record [("frame_count", .nat frames.count), ("frame_delay", .double frames.delay),
    ("loop_type", .text frames.frameLoop.name)]

def SpriteNode.members (node : SpriteNode Double) : List (String × Json) :=
  [("path", .text node.path), ("origin", .text node.origin.name),
    ("position", node.position.toJson)] ++
    (node.frames.map fun frames => ("frames", frames.toJson)).toList ++
    [("timeline", node.tracks.toJson), ("loops", .array (node.loops.map NodeLoop.toJson)),
      ("triggers", .array (node.triggers.map NodeTrigger.toJson))]

def VideoNode.members (node : VideoNode Double) : List (String × Json) :=
  [("path", .text node.path), ("start_time", .double node.startTime)]

def PreviewNode.toJson : PreviewNode Double → Json
  | .sprite node => .record (("type", .text "sprite") :: node.members)
  | .sample node =>
    .record [("type", .text "sample"), ("path", .text node.path),
      ("start_time", .double node.startTime), ("volume", .double node.volume)]
  | .video node => .record (("type", .text "video") :: node.members)

/-- The graph: the video if there is one, then every layer. -/
def PreviewGraph.toJson (graph : PreviewGraph Double) : Json :=
  .record ((graph.video.map fun node => ("video", Json.record node.members)).toList ++
    [("layers", .array (Layer.all.map fun layer =>
      .record [("layer", .text layer.name),
        ("children", .array ((graph.layers.get layer).map PreviewNode.toJson))]))])

end Storyboard
