import Mathlib.Algebra.Order.Floor.Semiring
import Mathlib.Tactic.Linarith
import Storyboard.Proofs.Number.Rounding
import Storyboard.Proofs.Preview.Extent

/-! # Loops that are played again

A loop is played round by round. Each round shows what the commands of the loop would show if they
stood outside of it, later by the start of the loop and by the rounds that are over, so the picture
comes back from round to round. Arithmetic is exact here.
-/

namespace Storyboard

/-! ## Rounds -/

theorem truncRat_eq {q : Rat} {k : Nat} (low : k ≤ q) (high : q < k + 1) : truncRat q = k := by
  rw [truncRat_of_nonneg ((Nat.cast_nonneg k).trans low), Int.floor_eq_iff]
  exact ⟨by exact_mod_cast low, by exact_mod_cast high⟩

/-- Some rounds and a part of a round are more than the rounds, and less than one round more. -/
theorem quotient_rounds {period part : Rat} (k : Nat) (nonneg : 0 ≤ part) (less : part < period) :
    k ≤ (k * period + part) / period ∧ (k * period + part) / period < k + 1 := by
  have positive : 0 < period := nonneg.trans_lt less
  rw [le_div_iff₀ positive, div_lt_iff₀ positive]
  constructor <;> linarith

/-- What is left of some rounds and a part of a round is the part. -/
theorem rem_rounds {period part : Rat} (k : Nat) (nonneg : 0 ≤ part) (less : part < period) :
    Scalar.rem (k * period + part) period = part := by
  obtain ⟨low, high⟩ := quotient_rounds k nonneg less
  have rounds : truncRat ((k * period + part) / period) = k := truncRat_eq low high
  change k * period + part - period * (truncRat ((k * period + part) / period) : Rat) = part
  rw [rounds]
  push_cast
  ring

/-- A time from the start on is a part of a round after some rounds. -/
theorem exists_round {start period time : Rat} (positive : 0 < period) (late : start ≤ time) :
    ∃ (k : Nat) (part : Rat), 0 ≤ part ∧ part < period ∧ time = start + k * period + part := by
  have nonneg : 0 ≤ (time - start) / period := div_nonneg (sub_nonneg.mpr late) positive.le
  have low := Nat.floor_le nonneg
  have high := Nat.lt_floor_add_one ((time - start) / period)
  rw [le_div_iff₀ positive] at low
  rw [div_lt_iff₀ positive] at high
  exact ⟨_, time - start - ⌊(time - start) / period⌋₊ * period, by linarith, by linarith, by ring⟩

/-! ## Delay -/

section Delay

variable {V : Type} (d time : Rat)

def Command.delay (c : Command Rat V) : Command Rat V :=
  { c with startTime := c.startTime + d, endTime := c.endTime + d }

def Track.delay (track : Track Rat V) : Track Rat V := track.map (Command.delay d)

def NodeTracks.delay (tracks : NodeTracks Rat) : NodeTracks Rat where
  x := Track.delay d tracks.x
  y := Track.delay d tracks.y
  scale := Track.delay d tracks.scale
  scaleVec := Track.delay d tracks.scaleVec
  rotation := Track.delay d tracks.rotation
  color := Track.delay d tracks.color
  opacity := Track.delay d tracks.opacity
  additive := Track.delay d tracks.additive
  flipH := Track.delay d tracks.flipH
  flipV := Track.delay d tracks.flipV

theorem Track.sorted_delay (track : Track Rat V) :
    sorted (delay d track) = delay d (sorted track) := by
  refine (List.map_mergeSort fun b _ c _ => Bool.eq_iff_iff.mpr ?_).symm
  have order (x y : Rat) : Scalar.totalLE x y = true ↔ x ≤ y := decide_eq_true_iff
  simp [Scalar.windowLE_iff_lex, order, Command.window, Command.delay]

variable [Transcendental Rat]

/-- A command that starts later by a delay says then what it said before. -/
theorem Command.valueAt_delay [Blend Rat V] (c : Command Rat V) :
    (c.delay d).valueAt time = c.valueAt (time - d) := by
  have start : time ≤ (c.delay d).startTime ↔ time - d ≤ c.startTime := sub_le_iff_le_add.symm
  have stop : (c.delay d).endTime ≤ time ↔ c.endTime ≤ time - d := le_sub_iff_add_le.symm
  have progress : (time - (c.delay d).startTime) / ((c.delay d).endTime - (c.delay d).startTime) =
      (time - d - c.startTime) / (c.endTime - c.startTime) := by
    change (time - (c.startTime + d)) / (c.endTime + d - (c.startTime + d)) = _
    rw [add_sub_add_right_eq_sub, sub_sub, add_comm d]
  simp only [valueAt, start, stop, progress]
  rfl

/-- The commands of a track keep their order under a delay, so the same one decides. -/
theorem Track.valueAt?_delay [Blend Rat V] (track : Track Rat V) :
    valueAt? (delay d track) time = valueAt? track (time - d) := by
  cases order : sorted track with
  | nil =>
    have order' : sorted (delay d track) = [] := by rw [sorted_delay, order]; rfl
    rw [valueAt?, valueAt?, order, order']
  | cons first rest =>
    have order' : sorted (delay d track) = first.delay d :: rest.map (Command.delay d) := by
      rw [sorted_delay, order]
      rfl
    have soon : time < (first.delay d).startTime ↔ time - d < first.startTime :=
      sub_lt_iff_lt_add.symm
    have search : ((first.delay d :: rest.map (Command.delay d)).reverse.find? fun c =>
          decide (c.startTime ≤ time)) =
        ((first :: rest).reverse.find? fun c => decide (c.startTime ≤ time - d)).map
          (Command.delay d) := by
      rw [← List.map_cons, ← List.map_reverse, List.find?_map]
      congr 2
      funext c
      exact decide_eq_decide.mpr le_sub_iff_add_le.symm
    rw [valueAt?_of_sorted order', valueAt?_of_sorted order, search, Option.getD_map,
      Command.valueAt_delay]
    simp only [soon]
    rfl

theorem NodeTracks.apply_delay (tracks : NodeTracks Rat) (state : NodeState Rat) :
    (tracks.delay d).apply time state = tracks.apply (time - d) state := by
  simp only [apply, delay, Track.valueAt?_delay]

end Delay

/-! ## A loop on its own -/

/-- In a round, the loop is at its first start and as much later as the round is old. -/
theorem NodeLoop.localTime?_round {l : NodeLoop Rat} {first last : Rat}
    (starts : l.tracks.startTime? = some first)
    (ends : l.tracks.endTime? = some last) {k : Nat} (round : k < max l.repeatCount 1) {part : Rat}
    (nonneg : 0 ≤ part) (less : part < last - first) :
    l.localTime? (l.startTime + first + k * (last - first) + part) = some (first + part) := by
  have positive : 0 < last - first := nonneg.trans_lt less
  have earlier : 0 ≤ k * (last - first) := mul_nonneg (Nat.cast_nonneg k) positive.le
  have whole : (k : Rat) + 1 ≤ l.rounds := by
    change (k : Rat) + 1 ≤ (max l.repeatCount 1 : Nat)
    exact_mod_cast round
  have short : k * (last - first) + part < (last - first) * l.rounds :=
    calc k * (last - first) + part < k * (last - first) + (last - first) := by gcongr
      _ = (last - first) * (k + 1) := by ring
      _ ≤ (last - first) * l.rounds := by gcongr
  have elapsed : l.startTime + first + k * (last - first) + part - (l.startTime + first) =
      k * (last - first) + part := by ring
  have inside : ¬ (l.startTime + first + k * (last - first) + part < l.startTime + first ∨
      l.startTime + first + (last - first) * l.rounds <
        l.startTime + first + k * (last - first) + part) := by
    rw [not_or, not_lt, not_lt]
    constructor <;> linarith
  rw [localTime?_of_extent starts ends, if_neg inside, if_pos (by norm_num; linarith),
    if_neg (by rw [not_le]; linarith), elapsed, rem_rounds k nonneg less]

section Exact

variable [Transcendental Rat]

theorem NodeTracks.apply_empty (time : Rat) (state : NodeState Rat) :
    ({} : NodeTracks Rat).apply time state = state := by
  simp [apply, Track.valueAt?, Track.sorted]

variable {node : SpriteNode Rat} {l : NodeLoop Rat} {first last : Rat}

/-- In a round, a lone loop shows its commands as much later as the loop and the rounds before make
them. -/
theorem SpriteNode.pictureAt_round (blank : node.tracks = {}) (single : node.loops = [l])
    (starts : l.tracks.startTime? = some first) (ends : l.tracks.endTime? = some last) {k : Nat}
    (round : k < max l.repeatCount 1) {part : Rat} (nonneg : 0 ≤ part)
    (less : part < last - first) :
    node.pictureAt (l.startTime + first + k * (last - first) + part) =
      l.tracks.apply (first + part) (.still node.position) := by
  rw [pictureAt, single, blank, NodeTracks.apply_empty, List.foldl_cons, List.foldl_nil,
    NodeLoop.apply, NodeLoop.localTime?_round starts ends round nonneg less]

/-- A loop on its own shows in each of its rounds what its commands show outside of a loop, later by
the start of the loop and the rounds before, and so the same in all rounds; before the first and
after the last round the sprite stands still. -/
theorem stateAt_replayed {node : SpriteNode Rat} {l : NodeLoop Rat} {first last : Rat}
    (blank : node.tracks = {}) (single : node.loops = [l])
    (starts : l.tracks.startTime? = some first) (ends : l.tracks.endTime? = some last)
    (positive : first < last) :
    let start := l.startTime + first
    let period := last - first
    let rounds := max l.repeatCount 1
    (∀ k < rounds, ∀ part, 0 ≤ part → part < period →
      (node.stateAt (start + k * period + part)).picture =
        ({ node with tracks := l.tracks.delay (l.startTime + k * period), loops := [] }.stateAt
          (start + k * period + part)).picture) ∧
    (∀ time, start ≤ time → time + period < start + rounds * period →
      (node.stateAt (time + period)).picture = (node.stateAt time).picture) ∧
    ∀ time, time < start ∨ start + rounds * period < time →
      (node.stateAt time).picture = NodeState.still node.position := by
  intro start period rounds
  have span : 0 < period := sub_pos.mpr positive
  refine ⟨fun k round part nonneg less => ?_, fun time late inside => ?_, fun time outside => ?_⟩
  · have delayed : start + k * period + part - (l.startTime + k * period) = first + part := by
      simp only [start]
      ring
    rw [SpriteNode.picture_stateAt, SpriteNode.picture_stateAt,
      SpriteNode.pictureAt_round blank single starts ends round nonneg less,
      SpriteNode.pictureAt_of_idle (by simp), NodeTracks.apply_delay, delayed]
  · obtain ⟨k, part, nonneg, less, rfl⟩ := exists_round span late
    have next : start + k * period + part + period = start + (k + 1 : Nat) * period + part := by
      push_cast
      ring
    have round : k + 1 < rounds := by
      have below : ((k + 1 : Nat) : Rat) * period < (rounds : Nat) * period := by linarith
      exact_mod_cast lt_of_mul_lt_mul_right below span.le
    rw [next, SpriteNode.picture_stateAt, SpriteNode.picture_stateAt,
      SpriteNode.pictureAt_round blank single starts ends round nonneg less,
      SpriteNode.pictureAt_round blank single starts ends (Nat.lt_of_succ_lt round) nonneg less]
  · have idle (l') (member : l' ∈ node.loops) : l'.localTime? time = none := by
      rw [single, List.mem_singleton] at member
      rw [member, NodeLoop.localTime?_of_extent starts ends, if_pos]
      exact outside.imp_right fun after => by rwa [mul_comm]
    rw [SpriteNode.picture_stateAt, SpriteNode.pictureAt_of_idle idle, blank,
      NodeTracks.apply_empty]

end Exact

/-- A loop that is played three times and whose commands do not begin together. -/
theorem stateAt_replayed_lamp :
    let _ : Transcendental Rat := ⟨fun _ => 0, fun _ => 1, fun _ => 0⟩
    let l : NodeLoop Rat :=
      ⟨6, 3, { y := [⟨.linear, -2, 2, 7, 9⟩], opacity := [⟨.inQuad, 0, 1, 0, 1⟩] }⟩
    let node : SpriteNode Rat :=
      { path := "lamp.png", origin := .centre, position := ⟨320, 240⟩, tracks := {}, loops := [l] }
    node.tracks = {} ∧ node.loops = [l] ∧ l.tracks.startTime? = some (-2) ∧
      l.tracks.endTime? = some 2 ∧ (-2 : Rat) < 2 ∧
      (∀ k < max l.repeatCount 1, ∀ part, 0 ≤ part → part < (2 : Rat) - (-2) →
        (node.stateAt (6 + -2 + k * (2 - -2) + part)).picture =
          ({ node with tracks := l.tracks.delay (6 + k * (2 - -2)), loops := [] }.stateAt
            (6 + -2 + k * (2 - -2) + part)).picture) ∧
      ∀ time, time < (6 : Rat) + -2 ∨ 6 + -2 + (max l.repeatCount 1 : Nat) * (2 - -2) < time →
        (node.stateAt time).picture = NodeState.still node.position := by
  intro _ l node
  have blank : node.tracks = {} := rfl
  have single : node.loops = [l] := rfl
  have starts : l.tracks.startTime? = some (-2) := by decide +kernel
  have ends : l.tracks.endTime? = some 2 := by decide +kernel
  have positive : (-2 : Rat) < 2 := by norm_num
  obtain ⟨shown, _, still⟩ := stateAt_replayed blank single starts ends positive
  exact ⟨blank, single, starts, ends, positive, shown, still⟩

end Storyboard
