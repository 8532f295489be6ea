import Mathlib.Tactic.NormNum
import Mathlib.Tactic.Ring
import Storyboard.Preview.State
import Storyboard.Proofs.Pipeline.Outline
import Storyboard.Proofs.Track.Sampling

/-! # Moving the picture

Moving all sprites back by an offset moves what a preview shows by that offset, at every time, and
changes nothing else. Values between two ends are blended evenly, so it makes no difference whether
the ends are moved or what lies between them; which command is sampled, and which moment of a loop
is shown, is decided by times alone. Arithmetic is exact here.
-/

namespace Storyboard

variable {R V W : Type} [Scalar R]

/-! ## Sampled values -/

/-- What lies between changed values is what lies between the values, changed. -/
def BlendsWith (R : Type) [Blend R V] [Blend R W] (f : V → W) : Prop :=
  ∀ (first last : V) (t : R), Blend.blend (f first) (f last) t = f (Blend.blend first last t)

section Sampling

variable [Transcendental R] [Blend R V] [Blend R W] {f : V → W} (blends : BlendsWith R f)
include blends

/-- Which command is sampled is decided by times alone. -/
theorem Track.valueAt?_mapValues (track : Track R V) (time : R) :
    valueAt? (mapValues f track) time = (valueAt? track time).map f :=
  eq_of_optionRel id (rel_valueAt?_mapValues (fun _ => rfl) blends track time)

end Sampling

/-! ## Nodes -/

/-- The state with the picture moved back by an offset. -/
def NodeState.movedBack (offset : Vec2 R) (state : NodeState R) : NodeState R :=
  { state with x := state.x - offset.x, y := state.y - offset.y }

/-- The tracks with the values of both coordinates moved back. -/
def NodeTracks.shift (offset : Vec2 R) (tracks : NodeTracks R) : NodeTracks R :=
  { tracks with
    x := Track.mapValues (fun x => x - offset.x) tracks.x
    y := Track.mapValues (fun y => y - offset.y) tracks.y }

/-- The loop with its tracks moved back. -/
def NodeLoop.shift (offset : Vec2 R) (l : NodeLoop R) : NodeLoop R :=
  { l with tracks := l.tracks.shift offset }

/-- The node with its position and all of its tracks moved back. -/
def SpriteNode.shift (offset : Vec2 R) (node : SpriteNode R) : SpriteNode R :=
  { node with
    position := node.position.sub offset
    tracks := node.tracks.shift offset
    loops := node.loops.map (NodeLoop.shift offset)
    triggers := node.triggers.map fun t => { t with tracks := t.tracks.shift offset } }

theorem NodeTracks.ofTracks_shift (offset : Vec2 R) (tracks : Tracks R) :
    ofTracks (tracks.shift offset) = (ofTracks tracks).shift offset := by
  simp [ofTracks, shift, Tracks.shift, Track.mapValues, Command.map, Vec2.sub]

theorem SpriteNode.ofSprite_shift (offset : Vec2 R) (s : Sprite R) (frames : Option (Frames R)) :
    ofSprite (s.shift offset) frames = (ofSprite s frames).shift offset := by
  simp [ofSprite, shift, NodeLoop.shift, Sprite.shift, Sprite.mapTracks,
    NodeTracks.ofTracks_shift]

/-! ## Times -/

section Times

variable (offset : Vec2 R)

@[simp] theorem NodeTracks.startTime?_shift (tracks : NodeTracks R) :
    (tracks.shift offset).startTime? = tracks.startTime? := by
  simp [startTime?, shift]

@[simp] theorem NodeTracks.endTime?_shift (tracks : NodeTracks R) :
    (tracks.shift offset).endTime? = tracks.endTime? := by
  simp [endTime?, shift]

theorem NodeLoop.localTime?_shift (l : NodeLoop R) (time : R) :
    (l.shift offset).localTime? time = l.localTime? time := by
  have starts : (l.shift offset).tracks.startTime? = l.tracks.startTime? :=
    l.tracks.startTime?_shift offset
  have ends : (l.shift offset).tracks.endTime? = l.tracks.endTime? :=
    l.tracks.endTime?_shift offset
  rw [localTime?, starts, ends]
  rfl

theorem SpriteNode.frameAt_shift (node : SpriteNode R) (time : R) :
    (node.shift offset).frameAt time = node.frameAt time := by
  have starts : (node.shift offset).startTime? = node.startTime? := by
    simp [startTime?, shift, NodeLoop.shift, List.filterMap_map, Function.comp_def]
  simp only [frameAt, starts]
  rfl

end Times

/-! ## Pictures -/

theorem blendsWith_sub (d : Rat) : BlendsWith Rat fun x : Rat => x - d := by
  intro first last t
  change first - d + (last - d - (first - d)) * t = first + (last - first) * t - d
  ring

section Exact

variable [Transcendental Rat] (offset : Vec2 Rat)

theorem NodeTracks.apply_shift (tracks : NodeTracks Rat) (time : Rat) (state : NodeState Rat) :
    (tracks.shift offset).apply time (state.movedBack offset) =
      (tracks.apply time state).movedBack offset := by
  simp only [apply, shift, NodeState.movedBack, Track.valueAt?_mapValues (blendsWith_sub _),
    Option.getD_map]

theorem NodeLoop.apply_shift (l : NodeLoop Rat) (time : Rat) (state : NodeState Rat) :
    (l.shift offset).apply time (state.movedBack offset) =
      (l.apply time state).movedBack offset := by
  simp only [apply, localTime?_shift]
  cases l.localTime? time with
  | none => rfl
  | some moment => exact l.tracks.apply_shift offset moment state

/-- A picture whose sprite was moved back is the picture moved back. -/
theorem SpriteNode.pictureAt_shift (node : SpriteNode Rat) (time : Rat) :
    (node.shift offset).pictureAt time = (node.pictureAt time).movedBack offset := by
  have still : NodeState.still (node.position.sub offset) =
      (NodeState.still node.position).movedBack offset := rfl
  simp only [pictureAt, shift, still, NodeTracks.apply_shift, List.foldl_map]
  -- Whatever state the loops start from, each of them moves what it shows.
  generalize node.tracks.apply time (.still node.position) = state
  induction node.loops generalizing state with
  | nil => rfl
  | cons l rest ih => rw [List.foldl_cons, List.foldl_cons, NodeLoop.apply_shift, ih]

theorem SpriteNode.stateAt_shift (node : SpriteNode Rat) (time : Rat) :
    (node.shift offset).stateAt time = (node.stateAt time).movedBack offset := by
  rw [stateAt, pictureAt_shift, frameAt_shift]
  rfl

end Exact

/-! ## The step -/

namespace Element

/-- The node of a sprite or animation without commands that run backward. -/
theorem previewNode_eq_ok {e : Element R} {s : Sprite R} (drawn : e.sprite? = some s)
    (checked : s.check = .ok ()) : e.previewNode = .ok (.sprite (.ofSprite s e.frames?)) := by
  cases e with
  | sprite s' | animation a =>
    cases drawn
    change (Sprite.check _ >>= fun _ => _) = _
    rw [checked]
    rfl
  | sample _ | video _ => cases drawn

omit [Scalar R] in
theorem frames?_mapSprite (f : Sprite R → Sprite R) (e : Element R) :
    (e.mapSprite f).frames? = e.frames? := by
  cases e <;> rfl

end Element

/-- After sprites have been moved back by an offset, the node of every sprite or animation without
commands that run backward shows what it showed before, moved back by the offset. -/
theorem stateAt_widescreen [Transcendental Rat] (offset : Vec2 Rat) (context : StepContext Rat)
    {i j : Nat} {group : Group Rat} {e : Element Rat} {s : Sprite Rat}
    (grouped : context.groups[i]? = some group) (placed : group.elements[j]? = some e)
    (drawn : e.sprite? = some s) (forward : ∀ window ∈ s.windows, window.1 ≤ window.2) :
    ∃ (context' : StepContext Rat) (group' : Group Rat) (e' : Element Rat)
      (before after : SpriteNode Rat),
      (∀ (m : Type → Type) [Monad m] [LawfulMonad m],
        ((Step.widescreen offset : Step m Rat).hook .postProcess).run.run context =
          pure (.ok (), context')) ∧
      context'.groups[i]? = some group' ∧ group'.elements[j]? = some e' ∧
      e.previewNode = .ok (.sprite before) ∧ e'.previewNode = .ok (.sprite after) ∧
      ∀ time, after.stateAt time = { before.stateAt time with
        x := (before.stateAt time).x - offset.x
        y := (before.stateAt time).y - offset.y } := by
  have checked : s.check = .ok () :=
    (checkWindows_eq_ok_iff _).mpr fun window member => not_lt.mpr (forward window member)
  -- The step leaves the windows, so the new sprite can be built, too.
  have windows : (s.shift offset).windows = s.windows :=
    Sprite.windows_eq_of_outline_eq (s.outline_shift offset)
  have checked' : (s.shift offset).check = .ok () := by
    rw [Sprite.check, windows, ← Sprite.check, checked]
  have drawn' : (e.mapSprite (Sprite.shift offset)).sprite? = some (s.shift offset) := by
    rw [Element.sprite?_mapSprite, drawn, Option.map_some]
  refine ⟨context.mapGroups (Group.mapSprites (Sprite.shift offset)),
    group.mapSprites (Sprite.shift offset), e.mapSprite (Sprite.shift offset),
    .ofSprite s e.frames?, (SpriteNode.ofSprite s e.frames?).shift offset, ?_, ?_, ?_,
    Element.previewNode_eq_ok drawn checked, ?_, fun time => SpriteNode.stateAt_shift offset _ time⟩
  · exact fun m _ _ =>
      StandardStep.run_postProcess (.widescreen offset : StandardStep m Rat) context
  · rw [StepContext.mapGroups, List.getElem?_map, grouped, Option.map_some]
  · rw [Group.mapSprites, List.getElem?_map, placed, Option.map_some]
  · rw [Element.previewNode_eq_ok drawn' checked', Element.frames?_mapSprite,
      SpriteNode.ofSprite_shift]

/-- An animation that a move of both coordinates, an overlapping one of one coordinate and a loop
move. -/
theorem stateAt_widescreen_lamp :
    let _ : Transcendental Rat := ⟨fun _ => 0, fun _ => 1, fun _ => 0⟩
    let offset : Vec2 Rat := ⟨107, -3⟩
    let lamp : Sprite Rat :=
      { path := "lamp.png", layer := .foreground, initialPosition := ⟨320, 240⟩
        tracks := { position := [⟨.inQuad, 0, 10, ⟨0, 1⟩, ⟨5, 2⟩⟩], x := [⟨.linear, 4, 8, 1, 2⟩] }
        loops := [⟨6, 3, { y := [⟨.linear, 0, 2, 7, 9⟩] }⟩] }
    let flame : Element Rat := .animation ⟨lamp, 4, 25, .forever⟩
    let group : Group Rat := { name := "front", elements := [flame] }
    let context : StepContext Rat := { groups := [group] }
    context.groups[0]? = some group ∧ group.elements[0]? = some flame ∧
      flame.sprite? = some lamp ∧ (∀ window ∈ lamp.windows, window.1 ≤ window.2) ∧
      ∃ (context' : StepContext Rat) (group' : Group Rat) (e' : Element Rat)
        (before after : SpriteNode Rat),
        (∀ (m : Type → Type) [Monad m] [LawfulMonad m],
          ((Step.widescreen offset : Step m Rat).hook .postProcess).run.run context =
            pure (.ok (), context')) ∧
        context'.groups[0]? = some group' ∧ group'.elements[0]? = some e' ∧
        flame.previewNode = .ok (.sprite before) ∧ e'.previewNode = .ok (.sprite after) ∧
        ∀ time, after.stateAt time = { before.stateAt time with
          x := (before.stateAt time).x - offset.x
          y := (before.stateAt time).y - offset.y } := by
  intro _ offset lamp flame group context
  have forward : ∀ window ∈ lamp.windows, window.1 ≤ window.2 := by
    norm_num [lamp, Sprite.windows, Sprite.allTracks, Tracks.windows, Track.windows,
      Command.window]
  exact ⟨rfl, rfl, rfl, forward, stateAt_widescreen offset context rfl rfl rfl forward⟩

end Storyboard
