import Mathlib.Algebra.Order.Ring.Rat
import Storyboard.Proofs.Preview.Coordinates
import Storyboard.Proofs.Preview.Translation

/-! # The extent of a sprite

Elements are ordered by the window of their commands, loops and triggers. This window bounds what a
preview shows: before it and after it the picture stands still. A track keeps its first value until
something starts and its last value once all is over, and a loop is played within its own window
only. Arithmetic is exact here.
-/

namespace Storyboard

/-! ## Tracks that stand still -/

namespace Track

variable {V : Type}

/-- Until something starts, the first value holds. -/
theorem valueAt?_before {R : Type} [Scalar R] [Transcendental R] [Blend R V] {track : Track R V}
    {time : R} (early : ∀ c ∈ track, time < c.startTime) :
    valueAt? track time = (sorted track).head?.map Command.startValue := by
  cases order : sorted track with
  | nil => rw [valueAt?, order]; rfl
  | cons first rest =>
    have here : first ∈ track := (mem_sorted track first).mp (order ▸ List.mem_cons_self ..)
    rw [valueAt?_of_sorted order, if_pos (early first here)]
    rfl

/-- Once all is over, the last value holds. -/
theorem valueAt?_after [Transcendental Rat] [Blend Rat V] {track : Track Rat V} {time : Rat}
    (late : ∀ c ∈ track, c.startTime < time ∧ c.endTime < time) :
    valueAt? track time = (sorted track).getLast?.map Command.endValue := by
  cases order : sorted track with
  | nil => rw [valueAt?, order]; rfl
  | cons first rest =>
    have passed (c) (member : c ∈ first :: rest) : c.startTime < time ∧ c.endTime < time :=
      late c ((mem_sorted track c).mp (order ▸ member))
    have begun := passed first (List.mem_cons_self ..)
    rw [valueAt?_of_sorted order, if_neg (not_lt.mpr begun.1.le)]
    obtain ⟨before, last, split⟩ := (List.eq_nil_or_concat (first :: rest)).resolve_left (by simp)
    have ended := passed last (by simp [split])
    rw [split, List.concat_eq_append, List.reverse_append, List.getLast?_append]
    rw [List.reverse_singleton, List.singleton_append,
      List.find?_cons_of_pos (by simpa using ended.1.le)]
    simp [Command.valueAt, ended.1, ended.2.le]

end Track

/-! ## Nodes that stand still -/

namespace NodeTracks

variable [Transcendental Rat] {tracks : NodeTracks Rat} {time time' : Rat}

/-- Moments that no track tells apart look the same. -/
theorem apply_congr
    (same : ∀ {V : Type} [Blend Rat V] (track : Track Rat V),
      Track.windows track ∈ tracks.windowParts →
        Track.valueAt? track time = Track.valueAt? track time')
    (state : NodeState Rat) : tracks.apply time state = tracks.apply time' state := by
  have x := same tracks.x (by simp [windowParts])
  have y := same tracks.y (by simp [windowParts])
  have scale := same tracks.scale (by simp [windowParts])
  have scaleVec := same tracks.scaleVec (by simp [windowParts])
  have rotation := same tracks.rotation (by simp [windowParts])
  have color := same tracks.color (by simp [windowParts])
  have opacity := same tracks.opacity (by simp [windowParts])
  have additive := same tracks.additive (by simp [windowParts])
  have flipH := same tracks.flipH (by simp [windowParts])
  have flipV := same tracks.flipV (by simp [windowParts])
  simp only [apply, x, y, scale, scaleVec, rotation, color, opacity, additive, flipH, flipV]

theorem apply_before (early : ∀ w ∈ tracks.windows, time < w.1 ∧ time' < w.1)
    (state : NodeState Rat) : tracks.apply time state = tracks.apply time' state := by
  refine apply_congr (fun track part => ?_) state
  have first (c) (member : c ∈ track) : time < c.startTime ∧ time' < c.startTime :=
    early c.window (List.mem_flatten_of_mem part (List.mem_map_of_mem member))
  rw [Track.valueAt?_before fun c member => (first c member).1,
    Track.valueAt?_before fun c member => (first c member).2]

/-- After all windows, tracks give the same at any two times. -/
theorem apply_after (forward : ∀ w ∈ tracks.windows, w.1 ≤ w.2)
    (late : ∀ w ∈ tracks.windows, w.2 < time ∧ w.2 < time') (state : NodeState Rat) :
    tracks.apply time state = tracks.apply time' state := by
  refine apply_congr (fun track part => ?_) state
  have last (c) (member : c ∈ track) :
      c.startTime ≤ c.endTime ∧ c.endTime < time ∧ c.endTime < time' := by
    have inside := List.mem_flatten_of_mem part (List.mem_map_of_mem member)
    exact ⟨forward c.window inside, late c.window inside⟩
  rw [Track.valueAt?_after fun c member => ⟨(last c member).1.trans_lt (last c member).2.1,
      (last c member).2.1⟩,
    Track.valueAt?_after fun c member => ⟨(last c member).1.trans_lt (last c member).2.2,
      (last c member).2.2⟩]

end NodeTracks

/-! ## Loops that are played -/

def NodeLoop.ofLoop (l : Loop Rat) : NodeLoop Rat :=
  ⟨l.startTime, l.repeatCount, .ofTracks l.tracks⟩

theorem NodeTracks.startTime?_ofTracks (tracks : Tracks Rat) :
    (ofTracks tracks).startTime? = tracks.startTime? :=
  eq_of_optionRel Scalar.eq_of_same (same_startTime?_ofTracks tracks fun _ _ => Scalar.isNaN_rat _)

theorem NodeTracks.endTime?_ofTracks (tracks : Tracks Rat) :
    (ofTracks tracks).endTime? = tracks.endTime? :=
  eq_of_optionRel Scalar.eq_of_same (same_endTime?_ofTracks tracks fun _ _ => Scalar.isNaN_rat _)

/-- The part of a loop that is shown, in terms of the extent of its commands. -/
theorem NodeLoop.localTime?_of_extent {l : NodeLoop Rat} {first last : Rat}
    (starts : l.tracks.startTime? = some first) (ends : l.tracks.endTime? = some last)
    (time : Rat) :
    l.localTime? time =
      if time < l.startTime + first ∨ l.startTime + first + (last - first) * l.rounds < time then
        none
      else if 0.0 < last - first then
        if l.startTime + first + (last - first) * l.rounds ≤ time then some last
        else some (first + Scalar.rem (time - (l.startTime + first)) (last - first))
      else some first := by
  rw [localTime?, starts, ends]
  rfl

/-- A loop is played from the start to the end of its window. -/
theorem NodeLoop.isSome_localTime?_iff (l : Loop Rat) (time : Rat) :
    ((ofLoop l).localTime? time).isSome = true ↔
      ∃ w, l.window? = some w ∧ w.1 ≤ time ∧ time ≤ w.2 := by
  have starts : (ofLoop l).tracks.startTime? = l.tracks.startTime? :=
    NodeTracks.startTime?_ofTracks l.tracks
  have ends : (ofLoop l).tracks.endTime? = l.tracks.endTime? :=
    NodeTracks.endTime?_ofTracks l.tracks
  rw [Loop.window?]
  cases first : l.tracks.startTime? with
  | none => simp [localTime?, starts, first]
  | some first' =>
    cases last : l.tracks.endTime? with
    | none => simp [localTime?, ends, last]
    | some last' =>
      have within (x y : Rat) : x ≤ time ∧ time ≤ y ↔ ¬ (time < x ∨ y < time) := by
        rw [not_or, not_lt, not_lt]
      have opened : (ofLoop l).startTime = l.startTime := rfl
      have played : (ofLoop l).rounds = l.rounds := rfl
      rw [localTime?_of_extent (starts.trans first) (ends.trans last), opened, played]
      simp only [Option.bind_eq_bind, Option.bind_some, Option.pure_def, Option.some.injEq,
        exists_eq_left', within]
      split_ifs with outside <;> simp [outside]

/-! ## The extent -/

theorem Tracks.exists_startTime?_le {tracks : Tracks Rat} {w : Rat × Rat}
    (member : w ∈ tracks.windows) : ∃ first, tracks.startTime? = some first ∧ first ≤ w.1 := by
  rw [← flatten_windowParts] at member
  rw [startTime?_eq]
  exact (isExtreme_firstStart? fun _ _ => Scalar.isNaN_rat _).exists_rel
    (List.mem_map_of_mem member)

theorem Tracks.exists_le_endTime? {tracks : Tracks Rat} {w : Rat × Rat}
    (member : w ∈ tracks.windows) : ∃ last, tracks.endTime? = some last ∧ w.2 ≤ last := by
  rw [← flatten_windowParts] at member
  rw [endTime?_eq]
  exact (isExtreme_lastEnd? fun _ _ => Scalar.isNaN_rat _).exists_rel
    (List.mem_map_of_mem member)

namespace Sprite

variable {s : Sprite Rat} {a b : Rat}

/-- Nothing starts before the sprite does. -/
theorem le_of_startTime? (starts : s.startTime? = some a) :
    (∀ w ∈ s.tracks.windows, a ≤ w.1) ∧ ∀ l ∈ s.loops, ∀ w, l.window? = some w → a ≤ w.1 := by
  have bound : Scalar.IsExtreme (fun m x => m ≤ x) (s.tracks.startTime?.toList ++
      s.loops.filterMap (fun l => l.window?.map Prod.fst) ++ s.triggers.map fun t => t.window.1)
      s.startTime? := Scalar.isExtreme_least? fun _ _ => Scalar.isNaN_rat _
  rw [starts] at bound
  refine ⟨fun w member => ?_, fun l member w window => bound.2 w.1 ?_⟩
  · obtain ⟨first, found, before⟩ := Tracks.exists_startTime?_le member
    exact (bound.2 first (by simp [found])).trans before
  · have among : w.1 ∈ s.loops.filterMap fun l => l.window?.map Prod.fst :=
      List.mem_filterMap.mpr ⟨l, member, by rw [window, Option.map_some]⟩
    simp [among]

/-- Nothing ends after the sprite does. -/
theorem le_of_endTime? (ends : s.endTime? = some b) :
    (∀ w ∈ s.tracks.windows, w.2 ≤ b) ∧ ∀ l ∈ s.loops, ∀ w, l.window? = some w → w.2 ≤ b := by
  have bound : Scalar.IsExtreme (fun m x => x ≤ m) (s.tracks.endTime?.toList ++
      s.loops.filterMap (fun l => l.window?.map Prod.snd) ++ s.triggers.map fun t => t.window.2)
      s.endTime? := Scalar.isExtreme_greatest? fun _ _ => Scalar.isNaN_rat _
  rw [ends] at bound
  refine ⟨fun w member => ?_, fun l member w window => bound.2 w.2 ?_⟩
  · obtain ⟨last, found, after⟩ := Tracks.exists_le_endTime? member
    exact after.trans (bound.2 last (by simp [found]))
  · have among : w.2 ∈ s.loops.filterMap fun l => l.window?.map Prod.snd :=
      List.mem_filterMap.mpr ⟨l, member, by rw [window, Option.map_some]⟩
    simp [among]

end Sprite

/-! ## Pictures -/

section Exact

variable [Transcendental Rat]

/-- The state with the image of an animation left out. -/
def NodeState.picture (state : NodeState Rat) : NodeState Rat := { state with frame := 0 }

namespace SpriteNode

/-- The picture of a state does not depend on the image of an animation. -/
theorem picture_stateAt (node : SpriteNode Rat) (time : Rat) :
    (node.stateAt time).picture = node.pictureAt time := by
  have frameless : (node.pictureAt time).frame = 0 := by
    have kept (l : NodeLoop Rat) (state : NodeState Rat) :
        (l.apply time state).frame = state.frame := by
      rw [NodeLoop.apply]
      cases l.localTime? time <;> rfl
    rw [pictureAt]
    generalize shown : node.tracks.apply time (.still node.position) = state
    have start : state.frame = 0 := shown ▸ rfl
    clear shown
    induction node.loops generalizing state with
    | nil => exact start
    | cons l rest ih => exact ih _ ((kept l state).trans start)
  rw [stateAt, NodeState.picture, ← frameless]

/-- While no loop is played, the tracks alone are seen. -/
theorem pictureAt_of_idle {node : SpriteNode Rat} {time : Rat}
    (idle : ∀ l ∈ node.loops, l.localTime? time = none) :
    node.pictureAt time = node.tracks.apply time (.still node.position) := by
  rw [pictureAt]
  generalize node.tracks.apply time (.still node.position) = state
  generalize node.loops = loops at idle
  induction loops with
  | nil => rfl
  | cons l rest ih =>
    rw [List.foldl_cons, NodeLoop.apply, idle l (List.mem_cons_self ..)]
    exact ih fun l' later => idle l' (List.mem_cons_of_mem _ later)

end SpriteNode

/-- Before the first start of all commands, loops and triggers a sprite looks the same at all times,
and so it does after the last end. Its node starts and ends when the sprite does, and plays each
loop throughout the window of the loop. -/
theorem stateAt_outside_extent {e : Element Rat} {s : Sprite Rat} {a b : Rat}
    (drawn : e.sprite? = some s) (checked : s.check = .ok ()) (starts : s.startTime? = some a)
    (ends : s.endTime? = some b) :
    ∃ node : SpriteNode Rat, e.previewNode = .ok (.sprite node) ∧
      (∀ t t', t < a → t' < a → (node.stateAt t).picture = (node.stateAt t').picture) ∧
      (∀ t t', b < t → b < t' → (node.stateAt t).picture = (node.stateAt t').picture) ∧
      node.tracks.startTime? = s.tracks.startTime? ∧ node.tracks.endTime? = s.tracks.endTime? ∧
      List.Forall₂ (fun (played : NodeLoop Rat) (l : Loop Rat) => ∀ t,
        (played.localTime? t).isSome = true ↔ ∃ w, l.window? = some w ∧ w.1 ≤ t ∧ t ≤ w.2)
        node.loops s.loops := by
  have forward (w) (member : w ∈ s.windows) : w.1 ≤ w.2 :=
    not_lt.mp ((checkWindows_eq_ok_iff _).mp checked w member)
  let node : SpriteNode Rat := .ofSprite s e.frames?
  have loops : node.loops = s.loops.map NodeLoop.ofLoop := rfl
  have same (w : Rat × Rat) : w ∈ node.tracks.windows ↔ w ∈ s.tracks.windows :=
    NodeTracks.mem_windows_ofTracks s.tracks w
  obtain ⟨early, earlyLoops⟩ := s.le_of_startTime? starts
  obtain ⟨late, lateLoops⟩ := s.le_of_endTime? ends
  -- A loop is idle outside of its window.
  have idle (t : Rat) (outside : t < a ∨ b < t) (played) (member : played ∈ node.loops) :
      played.localTime? t = none := by
    rw [loops] at member
    obtain ⟨l, there, rfl⟩ := List.mem_map.mp member
    rw [← Option.not_isSome_iff_eq_none, NodeLoop.isSome_localTime?_iff]
    rintro ⟨w, window, first, last⟩
    rcases outside with before | after
    · exact absurd ((earlyLoops l there w window).trans first) (not_le.mpr before)
    · exact absurd (last.trans (lateLoops l there w window)) (not_le.mpr after)
  refine ⟨node, Element.previewNode_eq_ok drawn checked, fun t t' before before' => ?_,
    fun t t' after after' => ?_, NodeTracks.startTime?_ofTracks s.tracks,
    NodeTracks.endTime?_ofTracks s.tracks, ?_⟩
  · rw [SpriteNode.picture_stateAt, SpriteNode.picture_stateAt,
      SpriteNode.pictureAt_of_idle (idle t (.inl before)),
      SpriteNode.pictureAt_of_idle (idle t' (.inl before'))]
    refine NodeTracks.apply_before (fun w member => ?_) _
    have first := early w ((same w).mp member)
    exact ⟨before.trans_le first, before'.trans_le first⟩
  · rw [SpriteNode.picture_stateAt, SpriteNode.picture_stateAt,
      SpriteNode.pictureAt_of_idle (idle t (.inr after)),
      SpriteNode.pictureAt_of_idle (idle t' (.inr after'))]
    refine NodeTracks.apply_after (fun w member => forward w ?_) (fun w member => ?_) _
    · exact List.mem_flatMap.mpr ⟨s.tracks, List.mem_cons_self .., (same w).mp member⟩
    · have last := late w ((same w).mp member)
      exact ⟨last.trans_lt after, last.trans_lt after'⟩
  · rw [loops, List.forall₂_map_left_iff]
    exact List.forall₂_same.mpr fun l _ t => NodeLoop.isSome_localTime?_iff l t

end Exact

/-- A sprite whose trigger reaches further than its moves and its loop. -/
theorem stateAt_outside_extent_lamp :
    let _ : Transcendental Rat := ⟨fun _ => 0, fun _ => 1, fun _ => 0⟩
    let lamp : Sprite Rat :=
      { path := "lamp.png", layer := .foreground, initialPosition := ⟨320, 240⟩
        tracks := { position := [⟨.inQuad, 0, 10, ⟨0, 1⟩, ⟨5, 2⟩⟩], x := [⟨.linear, 4, 8, 1, 2⟩] }
        loops := [⟨6, 0, { y := [⟨.linear, -2, 2, 7, 9⟩] }⟩]
        triggers := [⟨"Passing", 3, 20, 0, { opacity := [⟨.linear, -8, 4, 0, 1⟩] }⟩] }
    (Element.sprite lamp).sprite? = some lamp ∧ lamp.check = .ok () ∧
      lamp.startTime? = some (-5) ∧ lamp.endTime? = some 24 ∧
      ∃ node : SpriteNode Rat, (Element.sprite lamp).previewNode = .ok (.sprite node) ∧
        (∀ t t', t < -5 → t' < -5 → (node.stateAt t).picture = (node.stateAt t').picture) ∧
        (∀ t t', 24 < t → 24 < t' → (node.stateAt t).picture = (node.stateAt t').picture) := by
  intro _ lamp
  have checked : lamp.check = .ok () := by rfl
  have starts : lamp.startTime? = some (-5) := by decide +kernel
  have ends : lamp.endTime? = some 24 := by decide +kernel
  obtain ⟨node, built, before, after, _⟩ :=
    stateAt_outside_extent (e := .sprite lamp) rfl checked starts ends
  exact ⟨rfl, checked, starts, ends, node, built, before, after⟩

end Storyboard
