import Mathlib.Algebra.Order.Floor.Semiring
import Mathlib.Tactic.Linarith
import Storyboard.Number.Double
import Storyboard.Proofs.Preview.Replay

/-! # The images of an animation

An animation shows one of its images at every time, whatever numbers it is given, and finds it in
machine words without leaving them. In exact arithmetic the images are shown for one delay each: an
animation that runs once goes up to its last image and stays there, and one that runs forever comes
back to its first image.
-/

namespace Storyboard

/-! ## Machine words -/

namespace Word

/-- An integer as a long word, if one holds it. -/
def ofInt? (n : Int) : Option UInt64 :=
  if 0 ≤ n ∧ n < 2 ^ 64 then some (.ofNat n.toNat) else none

/-- A long word as a word, if one holds it. -/
def narrow? (x : UInt64) : Option UInt32 :=
  if x.toNat < 2 ^ 32 then some x.toUInt32 else none

/-- The remainder of a division, if it is not by zero. -/
def rem? (x y : UInt64) : Option UInt64 := if y = 0 then none else some (x % y)

/-- The word before another one, if there is one. -/
def pred? (x : UInt32) : Option UInt32 := if x = 0 then none else some (x - 1)

theorem ofInt?_eq_some {n : Int} (low : 0 ≤ n) (high : n < 2 ^ 64) :
    ∃ x, ofInt? n = some x ∧ x.toNat = n.toNat :=
  ⟨.ofNat n.toNat, if_pos ⟨low, high⟩, UInt64.toNat_ofNat_of_lt' (by simp; omega)⟩

theorem narrow?_eq_some {x : UInt64} {bound : UInt32} (less : x.toNat < bound.toNat) :
    ∃ y, narrow? x = some y ∧ y.toNat = x.toNat := by
  have fits : x.toNat < 2 ^ 32 := less.trans bound.toNat_lt
  exact ⟨x.toUInt32, if_pos fits, by rw [UInt64.toNat_toUInt32, Nat.mod_eq_of_lt fits]⟩

theorem rem?_eq_some {y : UInt64} (nonzero : y.toNat ≠ 0) (x : UInt64) :
    ∃ z, rem? x y = some z ∧ z.toNat = x.toNat % y.toNat := by
  refine ⟨x % y, if_neg fun zero => nonzero ?_, UInt64.toNat_mod x y⟩
  rw [zero]
  rfl

theorem pred?_eq_some {x : UInt32} (positive : 0 < x.toNat) :
    ∃ y, pred? x = some y ∧ y.toNat = x.toNat - 1 := by
  have one : 1 ≤ x := UInt32.le_iff_toNat_le.mpr positive
  refine ⟨x - 1, if_neg fun zero => ?_, UInt32.toNat_sub_of_le x 1 one⟩
  rw [zero] at positive
  exact absurd positive (by decide)

end Word

/-! ## Any numbers -/

theorem Double.clampedTrunc_mem {lo hi : Int} (low : lo ≤ 0) (high : 0 ≤ hi) (x : Double) :
    lo ≤ x.clampedTrunc lo hi ∧ x.clampedTrunc lo hi ≤ hi := by
  unfold clampedTrunc
  split
  · omega
  · split <;> omega
  · exact ⟨low, high⟩

namespace FrameLoop

/-- The image that is shown when some delays have passed. -/
def image (frameLoop : FrameLoop) (count shown : Nat) : Nat :=
  match frameLoop with
  | .forever => shown % count
  | .once => min shown (count - 1)

/-- The image that is shown when some delays have passed, found in machine words. -/
def imageWord? (frameLoop : FrameLoop) (count : UInt32) (shown : UInt64) : Option UInt32 :=
  match frameLoop with
  | .forever => do Word.narrow? (← Word.rem? shown count.toUInt64)
  | .once => do Word.narrow? (min shown (← Word.pred? count).toUInt64)

theorem image_lt (frameLoop : FrameLoop) {count : Nat} (nonempty : 0 < count) (shown : Nat) :
    frameLoop.image count shown < count := by
  cases frameLoop with
  | forever => exact Nat.mod_lt shown nonempty
  | once => exact (min_le_right _ _).trans_lt (Nat.sub_one_lt_of_lt nonempty)

/-- No step on the way to an image overflows, and the image is the one of the numbers. -/
theorem imageWord?_eq_some (frameLoop : FrameLoop) {count : UInt32} (positive : 0 < count.toNat)
    (shown : UInt64) : ∃ image, frameLoop.imageWord? count shown = some image ∧
      image.toNat = frameLoop.image count.toNat shown.toNat := by
  have wide (x : UInt32) : x.toUInt64.toNat = x.toNat := UInt32.toNat_toUInt64 x
  have less := frameLoop.image_lt positive shown.toNat
  cases frameLoop with
  | forever =>
    obtain ⟨rest, found, same⟩ := Word.rem?_eq_some (wide count ▸ positive.ne') shown
    rw [wide] at same
    obtain ⟨image, narrowed, same'⟩ := Word.narrow?_eq_some (same.trans_lt less)
    exact ⟨image, by simp only [imageWord?, found, narrowed, Option.bind_eq_bind, Option.bind_some],
      same'.trans same⟩
  | once =>
    obtain ⟨last, found, same⟩ := Word.pred?_eq_some positive
    have least : (min shown last.toUInt64).toNat = min shown.toNat (count.toNat - 1) := by
      change (if shown ≤ last.toUInt64 then shown else last.toUInt64).toNat = _
      rw [apply_ite UInt64.toNat, min_def]
      simp only [UInt64.le_iff_toNat_le, wide, same]
    obtain ⟨image, narrowed, same'⟩ := Word.narrow?_eq_some (least.trans_lt less)
    exact ⟨image, by simp only [imageWord?, found, narrowed, Option.bind_eq_bind, Option.bind_some],
      same'.trans least⟩

end FrameLoop

namespace Frames

/-- The image after some time, found in machine words. Nothing comes out where a number does not
fit its word, where a remainder is taken by zero or where zero is counted down. -/
def imageWord? {R : Type} [Scalar R] (count : UInt32) (delay : R) (frameLoop : FrameLoop)
    (elapsed : R) : Option UInt32 :=
  if count.toNat = 0 ∨ delay ≤ 0.0 ∨ elapsed ≤ 0.0 then some 0
  else do
    let shown ← Word.ofInt? (Scalar.clampedTrunc 0 0xFFFFFFFFFFFFFFFF (elapsed / delay))
    frameLoop.imageWord? count shown

/-- Whatever the delay and the time are, machine words hold all that is counted. -/
theorem imageWord?_eq_some (count : UInt32) (delay : Double) (frameLoop : FrameLoop)
    (elapsed : Double) : ∃ image, imageWord? count delay frameLoop elapsed = some image ∧
      image.toNat = imageAt ⟨count.toNat, delay, frameLoop⟩ elapsed := by
  unfold imageWord? imageAt
  dsimp only
  split_ifs with still
  · exact ⟨0, rfl, rfl⟩
  · have positive : 0 < count.toNat := Nat.pos_of_ne_zero fun empty => still (.inl empty)
    have inside := Double.clampedTrunc_mem le_rfl
      (by decide : (0 : Int) ≤ 0xFFFFFFFFFFFFFFFF) (elapsed / delay)
    obtain ⟨shown, found, same⟩ := Word.ofInt?_eq_some inside.1 (by omega)
    obtain ⟨image, narrowed, same'⟩ := frameLoop.imageWord?_eq_some positive shown
    refine ⟨image, ?_, ?_⟩
    · change (Word.ofInt? ((elapsed / delay).clampedTrunc 0 0xFFFFFFFFFFFFFFFF)).bind _ = _
      rw [found, Option.bind_some, narrowed]
    · rw [same', same]
      rfl

theorem imageAt_of_count_eq_zero {R : Type} [Scalar R] {frames : Frames R}
    (empty : frames.count = 0) (elapsed : R) : frames.imageAt elapsed = 0 :=
  if_pos (.inl empty)

/-! ## Exact numbers -/

def mostDelays : Nat := 0xFFFFFFFFFFFFFFFF

/-- Exact numbers are brought into 64 bits by their whole part. -/
theorem clampedTrunc_eq (q : Rat) :
    (Scalar.clampedTrunc 0 0xFFFFFFFFFFFFFFFF q).toNat = min mostDelays ⌊q⌋₊ := by
  change (max 0 (min 0xFFFFFFFFFFFFFFFF (truncRat q))).toNat = _
  rcases le_total 0 q with nonneg | nonpos
  · rw [truncRat_of_nonneg nonneg, ← Int.floor_toNat, mostDelays]
    omega
  · have opposite : 0 ≤ ⌊-q⌋ := Int.floor_nonneg.mpr (neg_nonneg.mpr nonpos)
    rw [← neg_neg q, truncRat_neg, truncRat_of_nonneg (neg_nonneg.mpr nonpos), neg_neg,
      Nat.floor_of_nonpos nonpos]
    omega

section Exact

variable {frames : Frames Rat} (nonempty : 0 < frames.count) (positive : 0 < frames.delay)

include nonempty positive

/-- Before the start of the animation no delays have passed. -/
theorem imageAt_eq (elapsed : Rat) : frames.imageAt elapsed =
    frames.frameLoop.image frames.count (min mostDelays ⌊elapsed / frames.delay⌋₊) := by
  have moving : ¬ frames.delay ≤ 0.0 := by norm_num [positive]
  rcases le_or_gt elapsed 0 with early | started
  · have waiting : ⌊elapsed / frames.delay⌋₊ = 0 :=
      Nat.floor_of_nonpos (div_nonpos_of_nonpos_of_nonneg early positive.le)
    rw [imageAt, if_pos (.inr (.inr (by norm_num [early]))), waiting]
    cases frames.frameLoop with
    | forever => exact (Nat.zero_mod _).symm
    | once => exact (Nat.zero_min _).symm
  · have late : ¬ elapsed ≤ 0.0 := by norm_num [started]
    rw [imageAt, if_neg (by simp only [nonempty.ne', moving, late, or_self, not_false_eq_true]),
      ← clampedTrunc_eq]
    rfl

/-- While some delays have passed and the next one has not, the image is that of the delays. -/
theorem imageAt_delays {k : Nat} (less : k < 2 ^ 64) {part : Rat} (nonneg : 0 ≤ part)
    (within : part < frames.delay) :
    frames.imageAt (k * frames.delay + part) = frames.frameLoop.image frames.count k := by
  have between := quotient_rounds k nonneg within
  have passed : ⌊(k * frames.delay + part) / frames.delay⌋₊ = k :=
    (Nat.floor_eq_iff ((Nat.cast_nonneg k).trans between.1)).mpr between
  rw [imageAt_eq nonempty positive, passed, min_eq_right (by rw [mostDelays]; omega)]

theorem imageAt_mono (once : frames.frameLoop = .once) : Monotone frames.imageAt := by
  intro early late less
  rw [imageAt_eq nonempty positive, imageAt_eq nonempty positive, once]
  have passed : ⌊early / frames.delay⌋₊ ≤ ⌊late / frames.delay⌋₊ :=
    Nat.floor_mono (div_le_div_of_nonneg_right less positive.le)
  exact min_le_min (min_le_min le_rfl passed) le_rfl

/-- After one delay for each image, the first image has come back. -/
theorem imageAt_add_period (forever : frames.frameLoop = .forever) {elapsed : Rat}
    (started : 0 ≤ elapsed)
    (counted : (elapsed + frames.count * frames.delay) / frames.delay < 2 ^ 64) :
    frames.imageAt (elapsed + frames.count * frames.delay) = frames.imageAt elapsed := by
  obtain ⟨k, part, nonneg, within, rfl⟩ := exists_round positive started
  have next : 0 + k * frames.delay + part + frames.count * frames.delay =
      (k + frames.count : Nat) * frames.delay + part := by
    push_cast
    ring
  have less : k + frames.count < 2 ^ 64 := by
    rw [next] at counted
    exact_mod_cast (quotient_rounds (k + frames.count) nonneg within).1.trans_lt counted
  rw [next, zero_add, imageAt_delays nonempty positive less nonneg within,
    imageAt_delays nonempty positive (by omega) nonneg within, forever]
  exact Nat.add_mod_right k frames.count

end Exact

end Frames

/-! ## Nodes -/

theorem SpriteNode.frame_stateAt {R : Type} [Scalar R] [Transcendental R] {node : SpriteNode R}
    {frames : Frames R} (animated : node.frames = some frames) (time : R) :
    (node.stateAt time).frame = frames.imageAt (time - node.startTime?.getD 0.0) := by
  change node.frameAt time = _
  rw [frameAt, animated]

/-- An animation shows an image that it has, whatever numbers come with it, and finds it in machine
words that hold all they have to. In exact numbers an animation that runs once never goes back and
keeps its last image, and one that runs forever shows its images in turn. -/
theorem stateAt_frame :
    (∀ (node : SpriteNode Double) (count : UInt32) (delay : Double) (frameLoop : FrameLoop)
      (time : Double), node.frames = some ⟨count.toNat, delay, frameLoop⟩ →
      ∃ image, Frames.imageWord? count delay frameLoop (time - node.startTime?.getD 0.0) =
          some image ∧
        (node.stateAt time).frame = image.toNat ∧ (image < count ∨ count = 0 ∧ image = 0)) ∧
    ∀ [Transcendental Rat] (node : SpriteNode Rat) (frames : Frames Rat),
      node.frames = some frames → 0 < frames.count → 0 < frames.delay →
      let start := node.startTime?.getD 0.0
      let period := frames.count * frames.delay
      (frames.frameLoop = .once → ∀ time later, time ≤ later →
        (node.stateAt time).frame ≤ (node.stateAt later).frame ∧
          ((node.stateAt time).frame = frames.count - 1 →
            (node.stateAt later).frame = frames.count - 1)) ∧
      (frames.frameLoop = .forever →
        (∀ time, start ≤ time → (time + period - start) / frames.delay < 2 ^ 64 →
          (node.stateAt (time + period)).frame = (node.stateAt time).frame) ∧
        ∀ k : Nat, k < 2 ^ 64 → ∀ part, 0 ≤ part → part < frames.delay →
          (node.stateAt (start + k * frames.delay + part)).frame = k % frames.count) := by
  refine ⟨fun node count delay frameLoop time animated => ?anyNumbers,
    fun node frames animated nonempty positive => ⟨fun once time later less => ?once,
      fun forever => ⟨fun time started counted => ?period, fun k less part nonneg within => ?turn⟩⟩⟩
  case anyNumbers =>
    obtain ⟨image, found, same⟩ := Frames.imageWord?_eq_some count delay frameLoop
      (time - node.startTime?.getD 0.0)
    refine ⟨image, found, (SpriteNode.frame_stateAt animated time).trans same.symm, ?_⟩
    rw [UInt32.lt_iff_toNat_lt, ← UInt32.toNat_inj, ← UInt32.toNat_inj, same]
    rcases Nat.eq_zero_or_pos count.toNat with empty | nonempty
    · exact .inr ⟨empty, Frames.imageAt_of_count_eq_zero empty _⟩
    · exact .inl (Frames.imageAt_lt _ _ nonempty)
  case once =>
    rw [SpriteNode.frame_stateAt animated, SpriteNode.frame_stateAt animated]
    have forth := Frames.imageAt_mono nonempty positive once
      (sub_le_sub_right less (node.startTime?.getD 0.0))
    have last := frames.imageAt_lt (later - node.startTime?.getD 0.0) nonempty
    exact ⟨forth, by omega⟩
  case period =>
    rw [add_sub_right_comm] at counted
    rw [SpriteNode.frame_stateAt animated, SpriteNode.frame_stateAt animated, add_sub_right_comm]
    exact Frames.imageAt_add_period nonempty positive forever (sub_nonneg.mpr started) counted
  case turn =>
    rw [SpriteNode.frame_stateAt animated, add_assoc, add_sub_cancel_left,
      Frames.imageAt_delays nonempty positive less nonneg within, forever]
    rfl

/-- Three images, one of which is shown at a time that is no number. In exact numbers they follow
each other from the start of the sprite on. -/
theorem stateAt_frame_bird :
    let _ : Transcendental Rat := ⟨fun _ => 0, fun _ => 1, fun _ => 0⟩
    let bird (frames : Frames Rat) : SpriteNode Rat :=
      { path := "bird.png", origin := .centre, position := ⟨320, 240⟩, frames := some frames,
        tracks := { opacity := [⟨.linear, 40, 1040, 1, 1⟩] } }
    let doubles : SpriteNode Double :=
      { path := "bird.png", origin := .centre, position := ⟨0.0, 0.0⟩,
        frames := some ⟨(3 : UInt32).toNat, 100.0, .forever⟩, tracks := {} }
    (∃ image, Frames.imageWord? 3 100.0 .forever (Double.undefined - doubles.startTime?.getD 0.0) =
        some image ∧ (doubles.stateAt .undefined).frame = image.toNat ∧
      (image < 3 ∨ (3 : UInt32) = 0 ∧ image = 0)) ∧
    ((bird ⟨3, 100, .forever⟩).stateAt (40 + (4 : Nat) * 100 + 50)).frame = 4 % 3 ∧
    ((bird ⟨3, 100, .forever⟩).stateAt (90 + (3 : Nat) * 100)).frame =
      ((bird ⟨3, 100, .forever⟩).stateAt 90).frame ∧
    ((bird ⟨3, 100, .once⟩).stateAt 90).frame ≤ ((bird ⟨3, 100, .once⟩).stateAt 700).frame := by
  intro _ bird doubles
  have start : (bird ⟨3, 100, .forever⟩).startTime? = some 40 := by decide +kernel
  have turns := (stateAt_frame.2 (bird ⟨3, 100, .forever⟩) _ rfl (by decide) (by norm_num)).2 rfl
  have goes := (stateAt_frame.2 (bird ⟨3, 100, .once⟩) _ rfl (by decide) (by norm_num)).1 rfl
  rw [start, Option.getD_some] at turns
  exact ⟨stateAt_frame.1 doubles 3 100.0 .forever .undefined rfl,
    turns.2 4 (by norm_num) 50 (by norm_num) (by norm_num),
    turns.1 90 (by norm_num) (by norm_num),
    (goes 90 700 (by norm_num)).1⟩

end Storyboard
