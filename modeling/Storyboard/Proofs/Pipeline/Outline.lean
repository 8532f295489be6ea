import Storyboard.Proofs.Generation.Visiting
import Storyboard.Proofs.Pipeline.Standard

/-! # Outlines of sprites

The outline of a sprite is what is left of it when the values that standard steps may change are
wiped out: its place, and the values of moves, scales, opacities and rotations. Standard steps keep
the outline of every sprite. As layers and windows can be seen in it, they keep the tour of all
elements, too.
-/

namespace Storyboard

variable {R : Type}

/-! ## Windows without values -/

namespace Track

variable {V W : Type} (f : V → W) (track : Track R V)

@[simp] theorem windows_mapValues : windows (mapValues f track) = windows track := by
  simp [windows, mapValues, Function.comp_def, Command.window, Command.map]

/-- What wipes out values wipes out any change of them before. -/
theorem mapValues_const {U : Type} (w : W) (f : U → V) (track : Track R U) :
    mapValues (fun _ => w) (mapValues f track) = mapValues (fun _ => w) track := by
  simp [mapValues, Function.comp_def, Command.map]

variable [Scalar R]

@[simp] theorem startTime?_mapValues : startTime? (mapValues f track) = startTime? track := by
  simp [startTime?, mapValues, Function.comp_def, Command.map]

@[simp] theorem endTime?_mapValues : endTime? (mapValues f track) = endTime? track := by
  simp [endTime?, mapValues, Function.comp_def, Command.map]

end Track

variable [Scalar R]

namespace Tracks

/-- The tracks without the values of moves, scales, opacities and rotations. -/
def outline (tracks : Tracks R) : Tracks R :=
  { tracks with
    position := Track.mapValues (fun _ => ⟨0.0, 0.0⟩) tracks.position
    x := Track.mapValues (fun _ => 0.0) tracks.x
    y := Track.mapValues (fun _ => 0.0) tracks.y
    scale := Track.mapValues (fun _ => 0.0) tracks.scale
    scaleVec := Track.mapValues (fun _ => ⟨0.0, 0.0⟩) tracks.scaleVec
    opacity := Track.mapValues (fun _ => 0.0) tracks.opacity
    rotation := Track.mapValues (fun _ => 0.0) tracks.rotation }

theorem outline_shift (offset : Vec2 R) (tracks : Tracks R) :
    (tracks.shift offset).outline = tracks.outline := by
  simp only [outline, shift, Track.mapValues_const]

theorem outline_round (p : Precision) (tracks : Tracks R) :
    (tracks.round p).outline = tracks.outline := by
  simp only [outline, round, Track.mapValues_const]

theorem windows_outline (tracks : Tracks R) : tracks.outline.windows = tracks.windows := by
  simp [windows, outline]

theorem startTime?_outline (tracks : Tracks R) : tracks.outline.startTime? = tracks.startTime? := by
  simp [startTime?, startTimes, outline]

theorem endTime?_outline (tracks : Tracks R) : tracks.outline.endTime? = tracks.endTime? := by
  simp [endTime?, endTimes, outline]

end Tracks

namespace Sprite

/-- The sprite without the values that standard steps may change. -/
def outline (s : Sprite R) : Sprite R :=
  { s.mapTracks Tracks.outline with initialPosition := ⟨0.0, 0.0⟩ }

theorem outline_shift (offset : Vec2 R) (s : Sprite R) : (s.shift offset).outline = s.outline := by
  simp [outline, shift, mapTracks, Tracks.outline_shift]

theorem outline_round (p : Precision) (s : Sprite R) : (s.round p).outline = s.outline := by
  simp [outline, round, mapTracks, Tracks.outline_round]

theorem windows_outline (s : Sprite R) : s.outline.windows = s.windows := by
  have tracks : s.outline.allTracks = s.allTracks.map Tracks.outline :=
    s.allTracks_mapTracks Tracks.outline
  simp [windows, tracks, List.flatMap_map, Tracks.windows_outline]

theorem startTime?_outline (s : Sprite R) : s.outline.startTime? = s.startTime? := by
  simp [startTime?, outline, mapTracks, List.filterMap_map, Function.comp_def, Loop.window?,
    Loop.rounds, Trigger.window, Tracks.startTime?_outline, Tracks.endTime?_outline]

theorem endTime?_outline (s : Sprite R) : s.outline.endTime? = s.endTime? := by
  simp [endTime?, outline, mapTracks, List.filterMap_map, Function.comp_def, Loop.window?,
    Loop.rounds, Trigger.window, Tracks.startTime?_outline, Tracks.endTime?_outline]

/-- A change of sprites that their outlines do not show. -/
def KeepsOutline (f : Sprite R → Sprite R) : Prop := ∀ s, (f s).outline = s.outline

variable {s t : Sprite R}

theorem windows_eq_of_outline_eq (same : s.outline = t.outline) : s.windows = t.windows := by
  rw [← windows_outline, same, windows_outline]

end Sprite

/-- No standard step changes what an outline shows. -/
theorem StandardStep.keepsOutline_redrawAll {m : Type → Type} [Monad m]
    (steps : List (StandardStep m R)) : Sprite.KeepsOutline (redrawAll steps) := by
  intro s
  induction steps generalizing s with
  | nil => rfl
  | cons kind rest ih =>
    have first : (kind.redraw s).outline = s.outline := by
      cases kind with
      | widescreen offset => exact s.outline_shift offset
      | precision p => exact s.outline_round p
      | filter _ _ | assets _ => rfl
    exact (ih (kind.redraw s)).trans first

/-! ## Elements -/

namespace Element

omit [Scalar R] in
@[simp] theorem isVideo_mapSprite (f : Sprite R → Sprite R) (e : Element R) :
    (e.mapSprite f).isVideo = e.isVideo := by
  cases e <;> rfl

theorem layer_outline (e : Element R) : (e.mapSprite Sprite.outline).layer = e.layer := by
  cases e <;> rfl

theorem window_outline (e : Element R) : (e.mapSprite Sprite.outline).window = e.window := by
  cases e <;> simp [window, mapSprite, startTime, endTime, Sprite.startTime?_outline,
    Sprite.endTime?_outline]

variable {f : Sprite R → Sprite R} (keeps : Sprite.KeepsOutline f) (e : Element R)
include keeps

theorem outline_mapSprite :
    (e.mapSprite f).mapSprite Sprite.outline = e.mapSprite Sprite.outline := by
  rw [mapSprite_mapSprite]
  exact congrArg e.mapSprite (funext keeps)

theorem layer_mapSprite : (e.mapSprite f).layer = e.layer := by
  rw [← layer_outline, outline_mapSprite keeps, layer_outline]

theorem window_mapSprite : (e.mapSprite f).window = e.window := by
  rw [← window_outline, outline_mapSprite keeps, window_outline]

end Element

theorem Group.outline_mapSprites {f : Sprite R → Sprite R} (keeps : Sprite.KeepsOutline f)
    (group : Group R) :
    (group.mapSprites f).mapSprites Sprite.outline = group.mapSprites Sprite.outline := by
  simp [mapSprites, Element.outline_mapSprite keeps]

/-! ## The tour -/

def Stop.mapSprite (f : Sprite R → Sprite R) (stop : Stop R) : Stop R :=
  { stop with element := stop.element.mapSprite f }

def Visit.mapSprite (f : Sprite R → Sprite R) (visit : Visit R) : Visit R :=
  { visit with element := visit.element.mapSprite f }

omit [Scalar R] in
theorem Visit.keptFrom_mapSprite (f : Sprite R → Sprite R) (seen : Bool) (visits : List (Visit R)) :
    keptFrom seen (visits.map (mapSprite f)) = (keptFrom seen visits).map (mapSprite f) := by
  induction visits generalizing seen with
  | nil => rfl
  | cons visit rest ih =>
    have video : (visit.mapSprite f).element.isVideo = visit.element.isVideo :=
      visit.element.isVideo_mapSprite f
    simp only [List.map_cons, keptFrom, video, ih]
    split <;> rfl

section InPlace

variable {f : Sprite R → Sprite R} (keeps : Sprite.KeepsOutline f)
include keeps

namespace Stop

theorem declared_mapSprite (elements : List (Element R)) :
    declared (elements.map (Element.mapSprite f)) = (declared elements).map (mapSprite f) := by
  simp [declared, List.zipIdx_map, mapSprite, Function.comp_def, Element.window_mapSprite keeps]

theorem onLayer_mapSprite (stops : List (Stop R)) (layer : Layer) :
    onLayer (stops.map (mapSprite f)) layer = (onLayer stops layer).map (mapSprite f) := by
  have there (stop : Stop R) : (mapSprite f stop).element.layer = stop.element.layer :=
    Element.layer_mapSprite keeps stop.element
  simp only [onLayer, List.filter_map, Function.comp_def, there]
  refine (List.map_mergeSort (f := mapSprite f) ?_).symm
  exact fun _ _ _ _ => rfl

theorem visiting_mapSprite (elements : List (Element R)) :
    visiting (elements.map (Element.mapSprite f)) = (visiting elements).map (mapSprite f) := by
  rw [visiting, visiting, declared_mapSprite keeps, List.map_flatMap]
  exact List.flatMap_congr fun layer _ => onLayer_mapSprite keeps (declared elements) layer

end Stop

theorem Visit.tour_mapSprites (groups : List (Group R)) :
    tour (groups.map (Group.mapSprites f)) = (tour groups).map (mapSprite f) := by
  have each (place : Nat) (group : Group R) :
      tourOf place (group.mapSprites f) = (tourOf place group).map (mapSprite f) := by
    simp only [tourOf, Group.mapSprites, Stop.visiting_mapSprite keeps, List.map_map]
    rfl
  simp [tour, List.zipIdx_map, List.flatMap_map, List.map_flatMap, each]

end InPlace

end Storyboard
