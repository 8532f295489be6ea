import Storyboard.Preview.State
import Storyboard.Proofs.Pipeline.Outline
import Storyboard.Proofs.Track.Sampling

/-! # Moves split into coordinates

A node moves its coordinates on tracks of their own, so a move of both is split. The windows stay
the same on the whole, and with them the first start and the last end; what a coordinate is at a
time is what the moves of both, or else all moves that concern it, say.
-/

namespace Storyboard

variable {R : Type}

/-! ## Windows on several tracks -/

namespace Tracks

def windowParts (tracks : Tracks R) : List (List (R × R)) :=
  [Track.windows tracks.position, Track.windows tracks.x, Track.windows tracks.y,
    Track.windows tracks.scale, Track.windows tracks.scaleVec, Track.windows tracks.rotation,
    Track.windows tracks.color, Track.windows tracks.opacity, Track.windows tracks.additive,
    Track.windows tracks.flipH, Track.windows tracks.flipV]

theorem flatten_windowParts (tracks : Tracks R) : tracks.windowParts.flatten = tracks.windows := by
  simp [windowParts, windows]

end Tracks

namespace NodeTracks

def windowParts (tracks : NodeTracks R) : List (List (R × R)) :=
  [Track.windows tracks.x, Track.windows tracks.y, Track.windows tracks.scale,
    Track.windows tracks.scaleVec, Track.windows tracks.rotation, Track.windows tracks.color,
    Track.windows tracks.opacity, Track.windows tracks.additive, Track.windows tracks.flipH,
    Track.windows tracks.flipV]

/-- The windows of all commands, track by track. -/
def windows (tracks : NodeTracks R) : List (R × R) := tracks.windowParts.flatten

/-- A node has the windows of its sprite. -/
theorem mem_windows_ofTracks (tracks : Tracks R) (w : R × R) :
    w ∈ (ofTracks tracks).windows ↔ w ∈ tracks.windows := by
  have split (track : Track R R) (moves : Track R (Vec2 R)) (f : Vec2 R → R) :
      Track.windows (track ++ Track.mapValues f moves) =
        Track.windows track ++ Track.windows moves := by
    rw [Track.windows, List.map_append, ← Track.windows, ← Track.windows, Track.windows_mapValues]
  simp only [windows, windowParts, ofTracks, Tracks.windows, split, List.flatten_cons,
    List.flatten_nil, List.mem_append]
  tauto

end NodeTracks

variable [Scalar R]

/-- The first of the first starts on some tracks. -/
def firstStart? (parts : List (List (R × R))) : Option R :=
  Scalar.least? ((parts.map fun part => Scalar.least? (part.map Prod.fst)).filterMap id)

/-- The last of the last ends on some tracks. -/
def lastEnd? (parts : List (List (R × R))) : Option R :=
  Scalar.greatest? ((parts.map fun part => Scalar.greatest? (part.map Prod.snd)).filterMap id)

section

variable {V : Type}

theorem Track.startTime?_eq (track : Track R V) :
    startTime? track = Scalar.least? ((windows track).map Prod.fst) := by
  rw [startTime?, windows, List.map_map]
  rfl

theorem Track.endTime?_eq (track : Track R V) :
    endTime? track = Scalar.greatest? ((windows track).map Prod.snd) := by
  rw [endTime?, windows, List.map_map]
  rfl

end

theorem Tracks.startTime?_eq (tracks : Tracks R) :
    tracks.startTime? = firstStart? tracks.windowParts := by
  simp only [startTime?, startTimes, Track.startTime?_eq]
  rfl

theorem Tracks.endTime?_eq (tracks : Tracks R) :
    tracks.endTime? = lastEnd? tracks.windowParts := by
  simp only [endTime?, endTimes, Track.endTime?_eq]
  rfl

theorem NodeTracks.startTime?_eq (tracks : NodeTracks R) :
    tracks.startTime? = firstStart? tracks.windowParts := by
  simp only [startTime?, Track.startTime?_eq]
  rfl

theorem NodeTracks.endTime?_eq (tracks : NodeTracks R) :
    tracks.endTime? = lastEnd? tracks.windowParts := by
  simp only [endTime?, Track.endTime?_eq]
  rfl

/-! ## The first start and the last end -/

/-- The extreme of the extremes on some tracks is that of all windows. -/
theorem isExtreme_parts (rel : R → R → Prop) {extreme? : List R → Option R}
    (trans : ∀ {x y z}, rel x y → rel y z → rel x z)
    (sound : ∀ {xs}, (∀ x ∈ xs, Scalar.isNaN x = false) → Scalar.IsExtreme rel xs (extreme? xs))
    {parts : List (List (R × R))} {f : R × R → R}
    (real : ∀ w ∈ parts.flatten, Scalar.isNaN (f w) = false) :
    Scalar.IsExtreme rel (parts.flatten.map f)
      (extreme? ((parts.map fun part => extreme? (part.map f)).filterMap id)) := by
  have real' : ∀ x ∈ (parts.map (List.map f)).flatten, Scalar.isNaN x = false := by
    rw [← List.map_flatten]
    exact List.forall_mem_map.mpr real
  have whole := Scalar.IsExtreme.flatten rel trans sound real'
  rwa [← List.map_flatten, List.map_map] at whole

variable [OrderedScalar R] {parts parts' : List (List (R × R))}

theorem isExtreme_firstStart? (real : ∀ w ∈ parts.flatten, Scalar.isNaN w.1 = false) :
    Scalar.IsExtreme (fun m x => m ≤ x) (parts.flatten.map Prod.fst) (firstStart? parts) :=
  isExtreme_parts (fun m x => m ≤ x) OrderedScalar.le_trans Scalar.isExtreme_least? real

theorem isExtreme_lastEnd? (real : ∀ w ∈ parts.flatten, Scalar.isNaN w.2 = false) :
    Scalar.IsExtreme (fun m x => x ≤ m) (parts.flatten.map Prod.snd) (lastEnd? parts) :=
  isExtreme_parts (fun m x => x ≤ m) (fun up down => OrderedScalar.le_trans down up)
    Scalar.isExtreme_greatest? real

/-- Tracks with the same windows start at the same number. -/
theorem same_firstStart? (real : ∀ w ∈ parts.flatten, Scalar.isNaN w.1 = false)
    (same : ∀ w, w ∈ parts'.flatten ↔ w ∈ parts.flatten) :
    Option.Rel (fun x y => Scalar.same x y = true) (firstStart? parts') (firstStart? parts) := by
  have held := isExtreme_firstStart? real
  have held' := isExtreme_firstStart? fun w member => real w ((same w).mp member)
  simpa [Scalar.same] using held'.related held fun x => by simp only [List.mem_map, same]

/-- Tracks with the same windows end at the same number. -/
theorem same_lastEnd? (real : ∀ w ∈ parts.flatten, Scalar.isNaN w.2 = false)
    (same : ∀ w, w ∈ parts'.flatten ↔ w ∈ parts.flatten) :
    Option.Rel (fun x y => Scalar.same x y = true) (lastEnd? parts') (lastEnd? parts) := by
  have held := isExtreme_lastEnd? real
  have held' := isExtreme_lastEnd? fun w member => real w ((same w).mp member)
  simpa [Scalar.same, and_comm] using held'.related held fun x => by simp only [List.mem_map, same]

namespace NodeTracks

variable (tracks : Tracks R)

theorem same_startTime?_ofTracks (real : ∀ w ∈ tracks.windows, Scalar.isNaN w.1 = false) :
    Option.Rel (fun x y => Scalar.same x y = true) (ofTracks tracks).startTime?
      tracks.startTime? := by
  rw [startTime?_eq, Tracks.startTime?_eq]
  refine same_firstStart? ?_ fun w => ?_
  · rwa [Tracks.flatten_windowParts]
  · rw [Tracks.flatten_windowParts]
    exact mem_windows_ofTracks tracks w

theorem same_endTime?_ofTracks (real : ∀ w ∈ tracks.windows, Scalar.isNaN w.2 = false) :
    Option.Rel (fun x y => Scalar.same x y = true) (ofTracks tracks).endTime?
      tracks.endTime? := by
  rw [endTime?_eq, Tracks.endTime?_eq]
  refine same_lastEnd? ?_ fun w => ?_
  · rwa [Tracks.flatten_windowParts]
  · rw [Tracks.flatten_windowParts]
    exact mem_windows_ofTracks tracks w

end NodeTracks

/-! ## Sampled coordinates -/

theorem blendsUpTo_x : Track.BlendsUpTo Double Double.Agree (Vec2.x (R := Double)) :=
  fun first last t => (Double.agree_mul_comm (last.x - first.x) t).add_left first.x

theorem blendsUpTo_y : Track.BlendsUpTo Double Double.Agree (Vec2.y (R := Double)) :=
  fun first last t => (Double.agree_mul_comm (last.y - first.y) t).add_left first.y

/-- Moves of one coordinate, followed by the moves of both as this coordinate sees them. -/
def movesOf (own : Track R R) (coordinate : Vec2 R → R) (both : Track R (Vec2 R)) : Track R R :=
  own ++ both.map fun c =>
    ⟨c.easing, c.startTime, c.endTime, coordinate c.startValue, coordinate c.endValue⟩

/-- Without moves of its own, a coordinate is what the moves of both say. -/
theorem rel_valueAt?_movesOf {coordinate : Vec2 Double → Double}
    (blends : Track.BlendsUpTo Double Double.Agree coordinate) {own : Track Double Double}
    (alone : own = []) (both : Track Double (Vec2 Double)) (time : Double) :
    Option.Rel Double.Agree (Track.valueAt? (movesOf own coordinate both) time)
      ((Track.valueAt? both time).map coordinate) := by
  subst alone
  exact Track.rel_valueAt?_mapValues (fun _ => .inl rfl) blends both time

/-- Where only moves of both coordinates are, a node samples what these say; where there are others,
it samples all moves as one track. Nothing else changes, and neither do the first start and the last
end. -/
theorem NodeTracks.ofTracks_samples (tracks : Tracks Double)
    (real : ∀ w ∈ tracks.windows, w.1.isNaN = false ∧ w.2.isNaN = false) :
    (∀ time : Double, time.isNaN = false →
      (tracks.x = [] → Option.Rel Double.Agree (Track.valueAt? (ofTracks tracks).x time)
        ((Track.valueAt? tracks.position time).map Vec2.x)) ∧
      (tracks.y = [] → Option.Rel Double.Agree (Track.valueAt? (ofTracks tracks).y time)
        ((Track.valueAt? tracks.position time).map Vec2.y)) ∧
      Track.Sampled (movesOf tracks.x Vec2.x tracks.position) time
        (Track.valueAt? (ofTracks tracks).x time) ∧
      Track.Sampled (movesOf tracks.y Vec2.y tracks.position) time
        (Track.valueAt? (ofTracks tracks).y time)) ∧
    ofTracks tracks =
      { x := movesOf tracks.x Vec2.x tracks.position
        y := movesOf tracks.y Vec2.y tracks.position
        scale := tracks.scale, scaleVec := tracks.scaleVec, rotation := tracks.rotation
        color := tracks.color, opacity := tracks.opacity, additive := tracks.additive
        flipH := tracks.flipH, flipV := tracks.flipV } ∧
    Option.Rel (fun s t => Scalar.same s t = true) (ofTracks tracks).startTime?
      tracks.startTime? ∧
    Option.Rel (fun s t => Scalar.same s t = true) (ofTracks tracks).endTime? tracks.endTime? := by
  have starts (w) (member : w ∈ tracks.windows) : Scalar.isNaN w.1 = false :=
    w.1.scalar_isNaN.trans (real w member).1
  have ends (w) (member : w ∈ tracks.windows) : Scalar.isNaN w.2 = false :=
    w.2.scalar_isNaN.trans (real w member).2
  have started (track : Track Double Double)
      (part : Track.windows track ∈ (ofTracks tracks).windowParts) (c) (member : c ∈ track) :
      Scalar.isNaN c.startTime = false :=
    starts c.window ((mem_windows_ofTracks tracks c.window).mp
      (List.mem_flatten_of_mem part (List.mem_map_of_mem member)))
  refine ⟨fun time number => ⟨fun alone => ?_, fun alone => ?_, ?_, ?_⟩, rfl,
    same_startTime?_ofTracks tracks starts, same_endTime?_ofTracks tracks ends⟩
  · exact rel_valueAt?_movesOf blendsUpTo_x alone tracks.position time
  · exact rel_valueAt?_movesOf blendsUpTo_y alone tracks.position time
  · exact Track.sampled_valueAt? (started (ofTracks tracks).x (by simp [windowParts]))
      (time.scalar_isNaN.trans number)
  · exact Track.sampled_valueAt? (started (ofTracks tracks).y (by simp [windowParts]))
      (time.scalar_isNaN.trans number)

/-- Moves of both coordinates that overlap, one of them at once, and a move of one coordinate. -/
theorem NodeTracks.ofTracks_samples_overlap :
    let time : Double := ⟨0x4014000000000000⟩
    let tracks : Tracks Double :=
      { position := [⟨.inQuad, ⟨0⟩, ⟨0x4024000000000000⟩, ⟨⟨0⟩, ⟨0⟩⟩, ⟨time, time⟩⟩,
          ⟨.linear, ⟨0x8000000000000000⟩, ⟨0x8000000000000000⟩, ⟨time, ⟨0⟩⟩, ⟨time, ⟨0⟩⟩⟩]
        y := [⟨.linear, ⟨0x3FF0000000000000⟩, ⟨0x7FF0000000000000⟩, ⟨0⟩, time⟩] }
    (∀ w ∈ tracks.windows, w.1.isNaN = false ∧ w.2.isNaN = false) ∧ time.isNaN = false ∧
      tracks.x = [] ∧
      Option.Rel Double.Agree (Track.valueAt? (ofTracks tracks).x time)
        ((Track.valueAt? tracks.position time).map Vec2.x) ∧
      Track.Sampled (movesOf tracks.y Vec2.y tracks.position) time
        (Track.valueAt? (ofTracks tracks).y time) ∧
      Option.Rel (fun s t => Scalar.same s t = true) (ofTracks tracks).startTime?
        tracks.startTime? := by
  intro time tracks
  have real : ∀ w ∈ tracks.windows, w.1.isNaN = false ∧ w.2.isNaN = false := by decide
  have number : time.isNaN = false := by decide
  obtain ⟨sampled, _, start, _⟩ := ofTracks_samples tracks real
  obtain ⟨alone, _, _, mixed⟩ := sampled time number
  exact ⟨real, number, rfl, alone rfl, mixed, start⟩

end Storyboard
