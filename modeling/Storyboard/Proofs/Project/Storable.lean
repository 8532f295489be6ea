import Storyboard.Project.Writer
import Storyboard.Proofs.Json.Exact

/-! # Projects that a text can hold

A project can be stored if all of its numbers are finite and its counts fit into their machine
types. The text of such a project holds it exactly, with at most thirteen levels of arrays and
objects, of which seven are inside of an element.
-/

namespace Storyboard

/-! ## Finite numbers and counts within their types -/

/-- Both coordinates are finite. -/
def Vec2.isFinite (v : Vec2 Double) : Bool := v.x.isFinite && v.y.isFinite

def Color.isFinite (c : Color Double) : Bool := c.r.isFinite && c.g.isFinite && c.b.isFinite

/-- A count of 32 bits. -/
def IsWord (n : Nat) : Prop := n < 0x100000000
  deriving Decidable

/-- The times are finite and the values are valid. -/
def Command.IsStorable {V : Type} (valid : V → Bool) (c : Command Double V) : Prop :=
  c.startTime.isFinite ∧ c.endTime.isFinite ∧ valid c.startValue ∧ valid c.endValue
  deriving Decidable

/-- Every command can be stored. -/
def Track.IsStorable {V : Type} (valid : V → Bool) (track : Track Double V) : Prop :=
  ∀ c ∈ track, Command.IsStorable valid c
  deriving Decidable

/-- Every track can be stored; a switch always is. -/
def Tracks.IsStorable (tracks : Tracks Double) : Prop :=
  Track.IsStorable Vec2.isFinite tracks.position ∧
    Track.IsStorable Double.isFinite tracks.x ∧
    Track.IsStorable Double.isFinite tracks.y ∧
    Track.IsStorable Double.isFinite tracks.scale ∧
    Track.IsStorable Vec2.isFinite tracks.scaleVec ∧
    Track.IsStorable Double.isFinite tracks.rotation ∧
    Track.IsStorable Color.isFinite tracks.color ∧
    Track.IsStorable Double.isFinite tracks.opacity ∧
    Track.IsStorable (fun _ => true) tracks.additive ∧
    Track.IsStorable (fun _ => true) tracks.flipH ∧
    Track.IsStorable (fun _ => true) tracks.flipV
  deriving Decidable

/-- The start is finite, and the count fits. -/
def Loop.IsStorable (l : Loop Double) : Prop :=
  l.startTime.isFinite ∧ IsWord l.repeatCount ∧ l.tracks.IsStorable
  deriving Decidable

/-- The window is finite, and the group fits. -/
def Trigger.IsStorable (t : Trigger Double) : Prop :=
  t.startTime.isFinite ∧ t.endTime.isFinite ∧ (-0x80000000 ≤ t.group ∧ t.group ≤ 0x7FFFFFFF) ∧
    t.tracks.IsStorable
  deriving Decidable

/-- The position, the tracks and all blocks can be stored. -/
def Sprite.IsStorable (s : Sprite Double) : Prop :=
  s.initialPosition.isFinite ∧ s.tracks.IsStorable ∧ (∀ l ∈ s.loops, l.IsStorable) ∧
    ∀ t ∈ s.triggers, t.IsStorable
  deriving Decidable

/-- All parts of the element can be stored. -/
def Element.IsStorable : Element Double → Prop
  | .sprite s => s.IsStorable
  | .animation a => a.sprite.IsStorable ∧ IsWord a.frameCount ∧ a.frameDelay.isFinite
  | .sample s => s.startTime.isFinite ∧ s.volume.isFinite
  | .video v => v.startTime.isFinite

instance (e : Element Double) : Decidable e.IsStorable :=
  match e with
  | .sprite s => inferInstanceAs (Decidable s.IsStorable)
  | .animation a =>
    inferInstanceAs (Decidable (a.sprite.IsStorable ∧ IsWord a.frameCount ∧ a.frameDelay.isFinite))
  | .sample s => inferInstanceAs (Decidable (s.startTime.isFinite ∧ s.volume.isFinite))
  | .video v => inferInstanceAs (Decidable (v.startTime.isFinite = true))

/-- The sides fit, or the size is finite. -/
def AssetSource.IsStorable : AssetSource → Prop
  | .solid width height _ => IsWord width ∧ IsWord height
  | .lettering _ _ sizePx _ => (singleValue sizePx).isFinite

instance (source : AssetSource) : Decidable source.IsStorable :=
  match source with
  | .solid width height _ => inferInstanceAs (Decidable (IsWord width ∧ IsWord height))
  | .lettering _ _ sizePx _ => inferInstanceAs (Decidable ((singleValue sizePx).isFinite = true))

/-- Every element and asset can be stored. -/
def DeclaredScript.IsStorable (script : DeclaredScript Double) : Prop :=
  (∀ g ∈ script.groups, ∀ e ∈ g.elements, e.IsStorable) ∧
    ∀ request ∈ script.assets, request.source.IsStorable
  deriving Decidable

/-- Every script can be stored. -/
def Project.IsStorable (project : Project Double) : Prop :=
  ∀ script ∈ project.scripts, script.IsStorable
  deriving Decidable

/-! ## Their text is exact -/

open Json (Exact)

variable {levels : Nat}

/-- Members whose values are exact. -/
def ExactMembers (levels : Nat) (members : List (String × Json)) : Prop :=
  ∀ m ∈ members, Exact levels m.2

theorem exactMembers_nil : ExactMembers levels [] ↔ True :=
  ⟨fun _ => trivial, fun _ _ member => absurd member List.not_mem_nil⟩

theorem exactMembers_cons {name : String} {value : Json} {rest : List (String × Json)} :
    ExactMembers levels ((name, value) :: rest) ↔ Exact levels value ∧ ExactMembers levels rest :=
  List.forall_mem_cons

theorem exactMembers_append {front back : List (String × Json)} :
    ExactMembers levels (front ++ back) ↔ ExactMembers levels front ∧ ExactMembers levels back :=
  List.forall_mem_append

theorem exactMembers_memberIf {present : Bool} {name : String} {value : Json} :
    ExactMembers levels (memberIf present name value) ↔ (present = true → Exact levels value) := by
  cases present <;> simp [memberIf, ExactMembers]

theorem exact_record {members : List (String × Json)} (parts : ExactMembers levels members) :
    Exact (levels + 1) (.record members) := .record parts

theorem exact_double {x : Double} (finite : x.isFinite = true) : Exact levels (.double x) :=
  .number levels _ finite

theorem exact_integer (n : Int) : Exact levels (.number (.integer n)) := .number levels _ rfl

theorem exact_list {α : Type} {write : α → Json} {list : List α}
    (parts : ∀ a ∈ list, Exact levels (write a)) : Exact (levels + 1) (.array (list.map write)) :=
  .array (List.forall_mem_map.mpr parts)

theorem Vec2.exact {v : Vec2 Double} (finite : v.isFinite = true) :
    Exact (levels + 1) v.toJson := by
  rw [isFinite, Bool.and_eq_true] at finite
  refine exact_record ?_
  simp only [exactMembers_cons, exactMembers_nil, and_true]
  exact ⟨exact_double finite.1, exact_double finite.2⟩

theorem Color.exact {c : Color Double} (finite : c.isFinite = true) :
    Exact (levels + 1) c.toJson := by
  rw [isFinite, Bool.and_eq_true, Bool.and_eq_true] at finite
  refine exact_record ?_
  simp only [exactMembers_cons, exactMembers_nil, and_true]
  exact ⟨exact_double finite.1.1, exact_double finite.1.2, exact_double finite.2⟩

section

variable {V : Type} {valid : V → Bool} {write : V → Json}
  (values : ∀ v, valid v = true → Exact (levels + 1) (write v))

include values

theorem Command.exact {c : Command Double V} (storable : c.IsStorable valid) :
    Exact (levels + 2) (c.toJson write) := by
  obtain ⟨start, stop, first, last⟩ := storable
  refine exact_record ?_
  simp only [exactMembers_cons, exactMembers_nil, and_true]
  exact ⟨.text .., exact_double start, exact_double stop, values _ first, values _ last⟩

theorem Track.exact_member {track : Track Double V} (storable : Track.IsStorable valid track)
    (name : String) : ExactMembers (levels + 3) (Track.member name write track) :=
  exactMembers_memberIf.mpr fun _ => exact_list fun c member =>
    Command.exact values (storable c member)

end

/-- Tracks that can be stored are written exactly. -/
theorem Tracks.exact {tracks : Tracks Double} (storable : tracks.IsStorable) :
    Exact (levels + 4) tracks.toJson := by
  obtain ⟨position, x, y, scale, scaleVec, rotation, color, opacity, additive, flipH, flipV⟩ :=
    storable
  have numbers (x : Double) (finite : x.isFinite = true) : Exact (levels + 1) (.double x) :=
    exact_double finite
  have points (v : Vec2 Double) (finite : v.isFinite = true) : Exact (levels + 1) v.toJson :=
    Vec2.exact finite
  have colors (c : Color Double) (finite : c.isFinite = true) : Exact (levels + 1) c.toJson :=
    Color.exact finite
  have switches (b : Bool) (_ : true = true) : Exact (levels + 1) (.bool b) := .bool ..
  refine exact_record ?_
  simp only [exactMembers_append]
  exact ⟨⟨⟨⟨⟨⟨⟨⟨⟨⟨Track.exact_member points position _, Track.exact_member numbers x _⟩,
    Track.exact_member numbers y _⟩, Track.exact_member numbers scale _⟩,
    Track.exact_member points scaleVec _⟩, Track.exact_member numbers rotation _⟩,
    Track.exact_member colors color _⟩, Track.exact_member numbers opacity _⟩,
    Track.exact_member switches additive _⟩, Track.exact_member switches flipH _⟩,
    Track.exact_member switches flipV _⟩

theorem Loop.exact {l : Loop Double} (storable : l.IsStorable) : Exact (levels + 5) l.toJson := by
  obtain ⟨start, -, tracks⟩ := storable
  refine exact_record ?_
  simp only [exactMembers_cons, exactMembers_nil, and_true]
  exact ⟨exact_double start, exact_integer _, Tracks.exact tracks⟩

theorem Trigger.exact {t : Trigger Double} (storable : t.IsStorable) :
    Exact (levels + 5) t.toJson := by
  obtain ⟨start, stop, -, tracks⟩ := storable
  refine exact_record ?_
  simp only [exactMembers_cons, exactMembers_nil, and_true]
  exact ⟨.text .., exact_double start, exact_double stop, exact_integer _, Tracks.exact tracks⟩

theorem Sprite.exact_members {s : Sprite Double} (storable : s.IsStorable) :
    ExactMembers (levels + 6) s.members := by
  obtain ⟨position, tracks, loops, triggers⟩ := storable
  simp only [Sprite.members, exactMembers_append, exactMembers_cons, exactMembers_nil,
    exactMembers_memberIf, and_true]
  exact ⟨⟨⟨.text .., .text .., .text .., Vec2.exact position, Tracks.exact tracks⟩,
    fun _ => exact_list fun l member => Loop.exact (loops l member)⟩,
    fun _ => exact_list fun t member => Trigger.exact (triggers t member)⟩

/-- An element that can be stored is written exactly. -/
theorem Element.exact {e : Element Double} (storable : e.IsStorable) :
    Exact (levels + 7) e.toJson := by
  cases e with
  | sprite s =>
    exact exact_record (exactMembers_cons.mpr ⟨.text .., Sprite.exact_members storable⟩)
  | animation a =>
    obtain ⟨sprite, -, delay⟩ := storable
    refine exact_record ?_
    simp only [exactMembers_append, exactMembers_cons, exactMembers_nil, and_true]
    exact ⟨⟨.text .., Sprite.exact_members sprite⟩, exact_integer _, exact_double delay, .text ..⟩
  | sample s =>
    refine exact_record ?_
    simp only [exactMembers_cons, exactMembers_nil, and_true]
    exact ⟨.text .., .text .., .text .., exact_double storable.1, exact_double storable.2⟩
  | video v =>
    refine exact_record ?_
    simp only [exactMembers_cons, exactMembers_nil, and_true]
    exact ⟨.text .., .text .., exact_double storable⟩

theorem Group.exact {g : Group Double} (storable : ∀ e ∈ g.elements, e.IsStorable) :
    Exact (levels + 9) g.toJson := by
  refine exact_record ?_
  simp only [exactMembers_append, exactMembers_cons, exactMembers_nil, exactMembers_memberIf,
    and_true]
  exact ⟨⟨.text .., fun _ => .text ..⟩, .bool .., exact_list fun e member =>
    Element.exact (storable e member)⟩

theorem Rgba.exact (c : Rgba) : Exact (levels + 1) c.toJson := exact_list fun _ _ => exact_integer _

/-- A source that can be stored is written exactly. -/
theorem AssetSource.exact {source : AssetSource} (storable : source.IsStorable) :
    Exact (levels + 3) source.toJson := by
  cases source with
  | solid width height rgba =>
    refine exact_record ?_
    simp only [exactMembers_cons, exactMembers_nil, and_true]
    refine exact_record ?_
    simp only [exactMembers_cons, exactMembers_nil, and_true]
    exact ⟨exact_integer _, exact_integer _, rgba.exact⟩
  | lettering text font sizePx rgba =>
    refine exact_record ?_
    simp only [exactMembers_cons, exactMembers_nil, and_true]
    refine exact_record ?_
    simp only [exactMembers_cons, exactMembers_nil, and_true]
    exact ⟨.text .., .text .., .number _ _ storable, rgba.exact⟩

theorem AssetRequest.exact {request : AssetRequest} (storable : request.source.IsStorable) :
    Exact (levels + 4) request.toJson := by
  refine exact_record ?_
  simp only [exactMembers_cons, exactMembers_nil, and_true]
  exact ⟨.text .., AssetSource.exact storable⟩

theorem DeclaredScript.exact {script : DeclaredScript Double} (storable : script.IsStorable) :
    Exact (levels + 11) script.toJson := by
  refine exact_record ?_
  simp only [exactMembers_append, exactMembers_cons, exactMembers_nil, exactMembers_memberIf,
    and_true]
  exact ⟨⟨.text .., exact_list fun g member => Group.exact (storable.1 g member)⟩,
    fun _ => exact_list fun request member => AssetRequest.exact (storable.2 request member)⟩

theorem PipelineConfig.exact (config : PipelineConfig) : Exact (levels + 1) config.toJson := by
  refine exact_record ?_
  simp only [exactMembers_append, exactMembers_cons, exactMembers_nil, exactMembers_memberIf,
    and_true]
  exact ⟨fun _ => .text .., .bool .., .bool .., exact_integer _, exact_integer _, exact_integer _,
    .bool ..⟩

/-- The text of a project that can be stored holds it exactly. -/
theorem Project.exact {project : Project Double} (storable : project.IsStorable) :
    Exact (levels + 13) project.toJson := by
  refine exact_record ?_
  simp only [exactMembers_append, exactMembers_cons, exactMembers_nil, exactMembers_memberIf,
    and_true]
  exact ⟨⟨project.config.exact, fun _ => exact_list fun _ _ => .text ..⟩,
    exact_list fun script member => DeclaredScript.exact (storable script member)⟩

end Storyboard
