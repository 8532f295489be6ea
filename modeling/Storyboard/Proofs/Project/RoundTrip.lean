import Storyboard.Proofs.Json.Records
import Storyboard.Proofs.Project.Storable

/-! # Projects that are read back

Reading what was written gives every type back, part by part: an optional member that was left out
is read as the default for which it was left out. A sprite comes back with no block open, because
that is no part of its text.
-/

namespace Storyboard

namespace ProjectReader

@[simp] theorem double?_double (x : Double) : Json.double? (.double x) = some x := rfl

@[simp] theorem string?_text (s : String) : Json.string? (.text s) = some s := rfl

@[simp] theorem bool?_bool (b : Bool) : Json.bool? (.bool b) = some b := rfl

@[simp] theorem vec2?_toJson (v : Vec2 Double) : vec2? v.toJson = some v := by
  rw [vec2?, Vec2.toJson, RecordShape.read_record _ (by decide) (by simp)]
  rfl

@[simp] theorem color?_toJson (c : Color Double) : color? c.toJson = some c := by
  rw [color?, Color.toJson, RecordShape.read_record _ (by decide) (by simp)]
  rfl

@[simp] theorem easing?_name (ahead : Bool) (easing : Easing) :
    easing? ahead (.text easing.name) = some easing := Easing.ofName?_name easing

@[simp] theorem layer?_name (ahead : Bool) (layer : Layer) :
    layer? ahead (.text layer.name) = some layer := Layer.ofName?_name layer

@[simp] theorem origin?_name (ahead : Bool) (origin : Origin) :
    origin? ahead (.text origin.name) = some origin := Origin.ofName?_name origin

@[simp] theorem frameLoop?_name (ahead : Bool) (frameLoop : FrameLoop) :
    frameLoop? ahead (.text frameLoop.name) = some frameLoop := FrameLoop.ofName?_name frameLoop

/-- A list that is left out if it is empty. -/
theorem optional_list {α : Type} {read : Json → Option α} (write : α → Json) (name : String)
    (list : List α) {fields : Fields} (same : ∀ a ∈ list, read (write a) = some a)
    (found : fields.find? name = if !list.isEmpty then some (.array (list.map write)) else none) :
    fields.optional name [] (Json.list? read) = some list := by
  rw [Fields.optional, found]
  cases list with
  | nil => rfl
  | cons first rest => exact Json.list?_array_self same

/-- A value that is left out if it is missing. -/
theorem optional_option {α : Type} {read : Json → Option α} (write : α → Json) (name : String)
    (value : Option α) (default : α) {fields : Fields}
    (same : ∀ a, Json.option? read (write a) = some (some a))
    (found : fields.find? name = if value.isSome then some (write (value.getD default)) else none) :
    fields.optional name none (Json.option? read) = some value := by
  rw [Fields.optional, found]
  cases value with
  | none => rfl
  | some a => exact same a

/-! ## Tracks -/

section

variable {V : Type} {readValue : Json → Option V} {write : V → Json}
  (same : ∀ v, readValue (write v) = some v) (ahead : Bool)

include same

theorem command?_toJson (c : Command Double V) :
    command? ahead readValue (c.toJson write) = some c := by
  rw [command?, Command.toJson, RecordShape.read_record _ (by decide) (by simp)]
  simp [Fields.optional, Fields.required, same]

theorem optional_track (name : String) (track : Track Double V) {fields : Fields}
    (found : fields.find? name = if !track.isEmpty then some (track.toJson write) else none) :
    fields.optional name [] (track? ahead readValue) = some track :=
  optional_list (Command.toJson write) name track (fun c _ => command?_toJson same ahead c) found

end

/-- The tracks that have commands are written, and all others are read as empty. -/
@[simp] theorem tracks?_toJson (ahead : Bool) (tracks : Tracks Double) :
    tracks? ahead tracks.toJson = some tracks := by
  rw [tracks?, Tracks.toJson, RecordShape.read_record _ (by decide)]
  · -- every property has its own track, which is empty if the property was left out
    simp only [Option.bind_eq_bind, Option.bind_some]
    rw [optional_track vec2?_toJson ahead "position" tracks.position,
      optional_track double?_double ahead "x" tracks.x,
      optional_track double?_double ahead "y" tracks.y,
      optional_track double?_double ahead "scale" tracks.scale,
      optional_track vec2?_toJson ahead "scale_vec" tracks.scaleVec,
      optional_track double?_double ahead "rotation" tracks.rotation,
      optional_track color?_toJson ahead "color" tracks.color,
      optional_track double?_double ahead "opacity" tracks.opacity,
      optional_track bool?_bool ahead "additive" tracks.additive,
      optional_track bool?_bool ahead "flip_h" tracks.flipH,
      optional_track bool?_bool ahead "flip_v" tracks.flipV]
    · rfl
    all_goals simp [Track.member]
  · have key {V : Type} (name : String) (write : V → Json) (track : Track Double V) :
        ((Track.member name write track).map Prod.fst).Sublist [name] := keys_memberIf_sublist ..
    simp only [List.map_append]
    exact (key ..).append (key ..) |>.append (key ..) |>.append (key ..) |>.append (key ..)
      |>.append (key ..) |>.append (key ..) |>.append (key ..) |>.append (key ..)
      |>.append (key ..) |>.append (key ..)

/-! ## Loops, triggers and sprites -/

theorem nat?_nat {n : Nat} (bits : Nat) (within : n < 1 <<< bits) :
    Json.nat? bits (.nat n) = some n := by
  rw [Json.nat?, Json.nat, Json.int?, if_pos (by omega)]
  rfl

theorem loop?_toJson (ahead : Bool) {l : Loop Double} (storable : l.IsStorable) :
    loop? ahead l.toJson = some l := by
  obtain ⟨-, count, -⟩ := storable
  rw [loop?, Loop.toJson, RecordShape.read_record _ (by decide) (by simp)]
  simp [Fields.optional, Fields.required, nat?_nat 32 count]

theorem trigger?_toJson (ahead : Bool) {t : Trigger Double} (storable : t.IsStorable) :
    trigger? ahead t.toJson = some t := by
  obtain ⟨-, -, group, -⟩ := storable
  rw [trigger?, Trigger.toJson, RecordShape.read_record _ (by decide) (by simp)]
  simp [Fields.optional, Fields.required, Json.int?, group]

end ProjectReader

def Sprite.closed (s : Sprite Double) : Sprite Double := { s with openBlock := none }

theorem Sprite.keys_members (s : Sprite Double) :
    (s.members.map Prod.fst).Sublist ProjectReader.spriteShape.fields := by
  rw [members, List.map_append, List.map_append]
  exact (List.Sublist.refl _).append (keys_memberIf_sublist ..)
    |>.append (keys_memberIf_sublist ..)

namespace ProjectReader

/-- A sprite is read back from its fields, but for an open block. -/
theorem spriteOf?_members (ahead : Bool) {s : Sprite Double} (storable : s.IsStorable) :
    spriteOf? ahead s.members = some s.closed := by
  obtain ⟨-, -, loops, triggers⟩ := storable
  have readLoops : Fields.optional s.members "loops" [] (Json.list? (loop? ahead)) =
      some s.loops :=
    optional_list Loop.toJson "loops" s.loops (fun l member => loop?_toJson ahead (loops l member))
      (by simp [Sprite.members])
  have readTriggers : Fields.optional s.members "triggers" [] (Json.list? (trigger? ahead)) =
      some s.triggers :=
    optional_list Trigger.toJson "triggers" s.triggers
      (fun t member => trigger?_toJson ahead (triggers t member))
      (by simp [Sprite.members])
  rw [spriteOf?, readLoops, readTriggers]
  simp [Sprite.members, Fields.optional, Fields.required, Sprite.closed]

theorem sprite?_members (ahead : Bool) {s : Sprite Double} (storable : s.IsStorable) :
    sprite? ahead (.record s.members) = some s.closed := by
  rw [sprite?, RecordShape.read_record _ (by decide) s.keys_members]
  exact spriteOf?_members ahead storable

/-! ## Elements -/

end ProjectReader

/-- The fields of an animation beside those of its sprite. -/
def Animation.frameMembers (a : Animation Double) : List (String × Json) :=
  [("frame_count", .nat a.frameCount), ("frame_delay", .double a.frameDelay),
    ("loop_type", .text a.frameLoop.name)]

theorem Animation.keys_members (a : Animation Double) :
    ((a.sprite.members ++ a.frameMembers).map Prod.fst).Sublist
      (ProjectReader.spriteShape.fields ++ ProjectReader.framesShape.fields) := by
  rw [List.map_append]
  exact a.sprite.keys_members.append (List.Sublist.refl _)

namespace ProjectReader

/-- An animation takes its own fields from among those of its sprite, and leaves these to it. -/
theorem animation?_members (ahead : Bool) {a : Animation Double} (storable : a.sprite.IsStorable)
    (count : IsWord a.frameCount) :
    animation? ahead (.record (a.sprite.members ++ a.frameMembers)) =
      some { a with sprite := a.sprite.closed } := by
  have distinct := a.keys_members.nodup (by decide)
  have known (m : String × Json) (member : m ∈ a.sprite.members) : m.1 ∈ spriteShape.fields :=
    a.sprite.keys_members.subset (List.mem_map_of_mem member)
  have own : framesShape.ofMembers
      ((a.sprite.members ++ a.frameMembers).map fun m => (some m.1, m.2)) [] =
        some a.frameMembers := by
    have apart : ∀ name ∈ spriteShape.fields, ¬ framesShape.fields.contains name = true := by
      decide
    rw [RecordShape.ofMembers_relaxed rfl distinct, List.filter_append,
      List.filter_eq_nil_iff.mpr fun m member => apart _ (known m member),
      List.filter_eq_self.mpr (by simp [Animation.frameMembers, framesShape])]
    rfl
  have beside : spriteShape.ofMembers
      ((a.sprite.members ++ a.frameMembers).map fun m => (some m.1, m.2)) [] =
        some a.sprite.members := by
    rw [RecordShape.ofMembers_relaxed rfl distinct, List.filter_append,
      List.filter_eq_self.mpr fun m member => List.contains_iff_mem.mpr (known m member),
      List.filter_eq_nil_iff.mpr (by simp [Animation.frameMembers, spriteShape]),
      List.append_nil]
  rw [Json.record, animation?, own, beside]
  simp [Animation.frameMembers, Fields.optional, Fields.required, nat?_nat 32 count,
    spriteOf?_members ahead storable]

theorem admits_of_le {setting : Setting} {levels depth : Nat} (room : setting.admits levels = true)
    (shallow : depth ≤ levels) : setting.admits depth = true := by
  cases setting with
  | text outer =>
    simp only [Setting.admits, decide_eq_true_eq] at room ⊢
    omega
  | held => rfl

/-- An element is read by its type if all of it fits into the setting. -/
theorem element?_record {setting : Setting} {levels : Nat} (room : setting.admits levels = true)
    (type : String) {members : Fields}
    (exact : Json.Exact levels (.record (("type", .text type) :: members)))
    (other : "type" ∉ members.map Prod.fst) :
    element? setting (.record (("type", .text type) :: members)) =
      elementOf? type (.record members) := by
  -- elements are read ahead: all parts have to be sound, and the nesting within the limit
  have fits : ((Json.record (("type", .text type) :: members)).isSound &&
      setting.admits (Json.record (("type", .text type) :: members)).depth) = true := by
    rw [exact.isSound, admits_of_le room exact.depth_le]
    rfl
  refine (if_pos fits).trans ?_
  simp only [Json.record, splitType?_record type other, Option.bind_eq_bind, Option.bind_some]

/-- An element is read with the block of its sprite closed. -/
theorem element?_toJson {setting : Setting} (room : setting.admits 7 = true) {e : Element Double}
    (storable : e.IsStorable) :
    element? setting e.toJson = some (e.mapSprite Sprite.closed) := by
  have exact : Json.Exact 7 e.toJson := Element.exact storable
  cases e with
  | sprite s =>
    refine (element?_record room "sprite" exact ?_).trans ?_
    · exact fun member => absurd (s.keys_members.subset member) (by decide)
    · rw [elementOf?, sprite?_members true storable]
      rfl
  | animation a =>
    obtain ⟨sprite, count, -⟩ := storable
    refine (element?_record room "animation" exact ?_).trans ?_
    · exact fun member => absurd (a.keys_members.subset member) (by decide)
    · exact congrArg (Option.map Element.animation) (animation?_members true sprite count)
  | sample s =>
    refine (element?_record room "sample" exact (by simp)).trans ?_
    rw [elementOf?, sample?, RecordShape.read_record _ (by decide) (by simp)]
    simp [Fields.optional, Fields.required, Element.mapSprite]
  | video v =>
    refine (element?_record room "video" exact (by simp)).trans ?_
    rw [elementOf?, video?, RecordShape.read_record _ (by decide) (by simp)]
    rfl

/-! ## Groups, assets and scripts -/

/-- A group is read back with its elements and settings. -/
theorem group?_toJson {setting : Setting} (room : (setting.inner 2).admits 7 = true)
    {g : Group Double} (storable : ∀ e ∈ g.elements, e.IsStorable) :
    group? setting g.toJson = some (g.mapSprites Sprite.closed) := by
  rw [group?, Group.toJson, RecordShape.read_record _ (by decide)]
  · simp only [Option.bind_eq_bind, Option.bind_some]
    rw [optional_option Json.text "target" g.target "" fun _ => rfl]
    · have elements : Json.list? (element? (setting.inner 2))
          (.array (g.elements.map Element.toJson)) =
            some (g.elements.map (Element.mapSprite Sprite.closed)) :=
        Json.list?_array fun e member => element?_toJson room (storable e member)
      simp [Fields.optional, Fields.required, elements, Group.mapSprites]
    · simp
  · rw [List.map_append, List.map_append]
    exact (List.Sublist.refl ["name"]).append (keys_memberIf_sublist ..)
      |>.append (List.Sublist.refl ["visible", "elements"])

@[simp] theorem rgba?_toJson (c : Rgba) : rgba? c.toJson = some c := by
  have channels : Json.list? (Json.nat? 8) c.toJson = some (c.channels.map UInt8.toNat) :=
    Json.list?_array fun n _ => nat?_nat 8 n.toNat_lt
  rw [rgba?, channels]
  simp [Rgba.channels]

/-- An image is read in a text as well as from a value of its own. -/
theorem source?_toJson (setting : Setting) {source : AssetSource} (storable : source.IsStorable) :
    source? setting source.toJson = some source := by
  have parts (members : List (String × Json)) :
      holdsParts setting (.record members) = true := by
    cases setting <;> rfl
  cases source with
  | solid width height rgba =>
    obtain ⟨fitsWidth, fitsHeight⟩ := storable
    refine (if_pos (parts _)).trans ?_
    simp only
    rw [solid?, RecordShape.read_record _ (by decide) (by simp)]
    simp [Fields.required, nat?_nat 32 fitsWidth, nat?_nat 32 fitsHeight]
  | lettering text font sizePx rgba =>
    have size : Json.single? (.number (.single sizePx)) = some sizePx := rfl
    refine (if_pos (parts _)).trans ?_
    simp only
    rw [lettering?, RecordShape.read_record _ (by decide) (by simp)]
    simp [Fields.optional, Fields.required, size]

theorem assetRequest?_toJson (setting : Setting) {request : AssetRequest}
    (storable : request.source.IsStorable) :
    assetRequest? setting request.toJson = some request := by
  rw [assetRequest?, AssetRequest.toJson, RecordShape.read_record _ (by decide) (by simp)]
  simp [Fields.required, source?_toJson setting storable]

end ProjectReader

/-- A declared script whose sprites have no block open. -/
def DeclaredScript.closed (script : DeclaredScript Double) : DeclaredScript Double :=
  { script with groups := script.groups.map (Group.mapSprites Sprite.closed) }

/-- A project whose sprites have no block open. -/
def Project.closed (project : Project Double) : Project Double :=
  { project with scripts := project.scripts.map DeclaredScript.closed }

namespace ProjectReader

/-- A script is read back with its groups and assets. -/
theorem script?_toJson {setting : Setting} (room : (setting.inner 4).admits 7 = true)
    {script : DeclaredScript Double} (storable : script.IsStorable) :
    script? setting script.toJson = some script.closed := by
  rw [script?, DeclaredScript.toJson, RecordShape.read_record _ (by decide)]
  · simp only [Option.bind_eq_bind, Option.bind_some]
    rw [optional_list AssetRequest.toJson "assets" script.assets fun request member =>
      assetRequest?_toJson setting (storable.2 request member)]
    · have groups : Json.list? (group? (setting.inner 2))
          (.array (script.groups.map Group.toJson)) =
            some (script.groups.map (Group.mapSprites Sprite.closed)) :=
        Json.list?_array fun g member =>
          group?_toJson (by rwa [Setting.inner_inner]) (storable.1 g member)
      simp [Fields.optional, Fields.required, groups, DeclaredScript.closed]
    · simp
  · rw [List.map_append]
    exact (List.Sublist.refl ["name", "groups"]).append (keys_memberIf_sublist ..)

/-! ## Projects -/

theorem precisions_of_valid {config : PipelineConfig} (valid : config.validate = .ok ()) :
    ∀ p ∈ config.precisions, p.2 ≤ maxPlaces := by
  rw [PipelineConfig.validate] at valid
  split at valid
  · simp at valid
  · next supported =>
    intro p member
    simpa using List.find?_eq_none.mp supported p member

/-- Valid settings are read back. -/
theorem config?_toJson {config : PipelineConfig} (valid : config.validate = .ok ()) :
    config? config.toJson = some config := by
  have word {n : Nat} (places : n ≤ maxPlaces) : n < 1 <<< 32 :=
    Nat.lt_of_le_of_lt places (by decide)
  have precisions := precisions_of_valid valid
  simp only [PipelineConfig.precisions, List.forall_mem_cons] at precisions
  obtain ⟨move, alpha, rotation, -⟩ := precisions
  rw [config?, PipelineConfig.toJson, RecordShape.read_record _ (by decide)]
  · simp only [Option.bind_eq_bind, Option.bind_some]
    rw [optional_option Json.text "export_target" config.exportTarget "" fun _ => rfl]
    · simp [Fields.optional, nat?_nat 32 (word move), nat?_nat 32 (word alpha),
        nat?_nat 32 (word rotation)]
    · simp
  · rw [List.map_append]
    exact (keys_memberIf_sublist ..).append (List.Sublist.refl _)

/-- A valid project whose parts can be stored is read back. -/
theorem project?_toJson {project : Project Double} (valid : project.config.validate = .ok ())
    (storable : project.IsStorable) : project? project.toJson = some project.closed := by
  rw [project?, Project.toJson, RecordShape.read_record _ (by decide)]
  · have scripts : Json.list? (script? (.text 2))
        (.array (project.scripts.map DeclaredScript.toJson)) =
          some (project.scripts.map DeclaredScript.closed) :=
      Json.list?_array fun script member => script?_toJson (by decide) (storable script member)
    have names (order : List String) : Json.option? (Json.list? Json.string?)
        (.array (order.map .text)) = some (some order) :=
      congrArg (Option.map some) (Json.list?_array_self fun name _ => string?_text name)
    simp only [Option.bind_eq_bind, Option.bind_some]
    rw [optional_option (fun order => .array (order.map .text)) "group_order" project.groupOrder []
      names]
    · simp [Fields.optional, config?_toJson valid, scripts, Project.closed]
    · simp
  · rw [List.map_append, List.map_append]
    exact (List.Sublist.refl ["config"]).append (keys_memberIf_sublist ..)
      |>.append (List.Sublist.refl ["scripts"])

end ProjectReader

namespace Project

theorem validate_closed (project : Project Double) :
    project.closed.validate = project.validate := by
  simp [validate, closed, DeclaredScript.closed, Function.comp_def]

/-- A valid project that can be stored is read back from its text as it was, with no block open. -/
theorem ofJson_written_toJson {project : Project Double} (valid : project.validate = .ok ())
    (storable : project.IsStorable) :
    ofJson project.toJson.written = .ok project.closed ∧ project.closed.validate = .ok () := by
  have settings : project.config.validate = .ok () := by
    cases checked : project.config.validate with
    | ok _ => rfl
    | error e =>
      rw [validate, checked] at valid
      cases valid
  have closed : project.closed.validate = .ok () := (validate_closed project).trans valid
  have exact : Json.Exact 13 project.toJson := Project.exact storable
  refine ⟨?_, closed⟩
  rw [exact.written_eq, ofJson, ProjectReader.project?_toJson settings storable]
  simp only [closed]
  rfl

/-- A project with an element of each type, and a sprite whose loop is still open. -/
def overture : Project Double where
  config := { exportTarget := some "hard", widescreen := true }
  groupOrder := some ["title", "sounds"]
  scripts := [{
    name := "opening"
    groups := [
      { name := "title"
        target := some "hard"
        elements := [
          .sprite {
            path := "sb/title.png"
            layer := .foreground
            origin := .topLeft
            initialPosition := ⟨⟨0x4074000000000000⟩, ⟨0x406E000000000000⟩⟩
            tracks := { opacity := [⟨.inQuad, ⟨0⟩, ⟨0x408F400000000000⟩, ⟨0⟩,
              ⟨0x3FF0000000000000⟩⟩] }
            loops := [⟨⟨0⟩, 4, {}⟩]
            openBlock := some .loop },
          .animation {
            sprite := {
              path := "sb/star.png"
              layer := .overlay
              initialPosition := ⟨⟨0⟩, ⟨0⟩⟩
              triggers := [⟨"HitSoundClap", ⟨0⟩, ⟨0x408F400000000000⟩, 1, {}⟩] }
            frameCount := 8
            frameDelay := ⟨0x4059000000000000⟩ }] },
      { name := "sounds"
        visible := false
        elements := [.sample ⟨"sb/clap.wav", .pass, ⟨0⟩, ⟨0x4059000000000000⟩⟩,
          .video ⟨"intro.mp4", ⟨0x408F400000000000⟩⟩] }]
    assets := [⟨"sb/black.png", .solid 1 1 ⟨0, 0, 0, 255⟩⟩] }]

theorem ofJson_written_toJson_overture :
    (overture.validate = .ok () ∧ overture.IsStorable) ∧
      ofJson overture.toJson.written = .ok overture.closed ∧ overture.closed ≠ overture := by
  have valid : overture.validate = .ok () := by rfl
  have storable : overture.IsStorable := by decide
  exact ⟨⟨valid, storable⟩, (ofJson_written_toJson valid storable).1, by decide⟩

end Project

end Storyboard
