import Mathlib.Algebra.Order.Field.Basic
import Mathlib.Tactic.Linarith
import Storyboard.Command
import Storyboard.Proofs.Track.Curves

/-! # The way from the start value to the end value

A command of numbers has made some part of its way at any time: nothing until its start, all of it
from its end on, and what its curve says in between. Where the curve keeps between the start and
the end of a motion the value keeps between the values of the command, and where the curve never
turns back neither does the value.
-/

namespace Storyboard

namespace Command

open Set

/-- The same command in numbers that may be missing. -/
def checked (c : Command Rat Rat) : Command Checked Checked :=
  ⟨c.easing, .of c.startTime, .of c.endTime, .of c.startValue, .of c.endValue⟩

/-- A part of the way between two numbers leads to a number between them. -/
theorem blend_between {x y part : Rat} (inside : part ∈ Icc 0 1) :
    min x y ≤ x + (y - x) * part ∧ x + (y - x) * part ≤ max x y := by
  obtain ⟨first, last⟩ := inside
  rcases le_total x y with up | down
  · have made : 0 ≤ (y - x) * part := mul_nonneg (sub_nonneg.2 up) first
    have left : (y - x) * part ≤ y - x := mul_le_of_le_one_right (sub_nonneg.2 up) last
    rw [min_eq_left up, max_eq_right up]
    exact ⟨by linarith, by linarith⟩
  · have made : (y - x) * part ≤ 0 := mul_nonpos_of_nonpos_of_nonneg (sub_nonpos.2 down) first
    have left : y - x ≤ (y - x) * part := le_mul_of_le_one_right (sub_nonpos.2 down) last
    rw [min_eq_right down, max_eq_left down]
    exact ⟨by linarith, by linarith⟩

variable [Transcendental Rat] (c : Command Rat Rat)

/-- The part of the way made at a time. -/
def progress (time : Rat) : Rat :=
  if time ≤ c.startTime then 0
  else if c.endTime ≤ time then 1
  else c.easing.apply ((time - c.startTime) / (c.endTime - c.startTime))

variable {c} {time later : Rat}

theorem progress_eq_zero (early : time ≤ c.startTime) : c.progress time = 0 := if_pos early

theorem progress_eq_one (started : c.startTime < time) (ended : c.endTime ≤ time) :
    c.progress time = 1 := by
  rw [progress, if_neg started.not_ge, if_pos ended]

theorem progress_of_between (started : c.startTime < time) (running : time < c.endTime) :
    c.progress time = c.easing.apply ((time - c.startTime) / (c.endTime - c.startTime)) := by
  rw [progress, if_neg started.not_ge, if_neg running.not_ge]

theorem valueAt_eq_progress (c : Command Rat Rat) (time : Rat) :
    c.valueAt time = c.startValue + (c.endValue - c.startValue) * c.progress time := by
  unfold valueAt progress
  split_ifs
  · rw [mul_zero, add_zero]
  · rw [mul_one, add_sub_cancel]
  · rfl

/-- A command divides by the length of its window only if the time is inside. -/
theorem valueAt_checked (c : Command Rat Rat) (time : Rat) :
    c.checked.valueAt (.of time) = .of (c.valueAt time) := by
  simp only [valueAt, checked, Checked.of_le, Checked.of_sub]
  split_ifs with early ended
  · rfl
  · rfl
  · have length : c.endTime - c.startTime ≠ 0 := by linarith
    rw [Checked.of_div length, Easing.apply_of]
    rfl

theorem progress_mem (kind : c.easing.isPowerOrBounce = true) (time : Rat) :
    c.progress time ∈ Icc 0 1 := by
  unfold progress
  split_ifs
  · exact ⟨le_rfl, zero_le_one⟩
  · exact ⟨zero_le_one, le_rfl⟩
  · exact Easing.apply_mem kind _

/-- Curves without swings make their way in one direction. -/
theorem progress_mono (kind : c.easing.isPower = true) : Monotone c.progress := by
  intro time later less
  have inside := progress_mem (Easing.isPowerOrBounce_of_isPower kind)
  rcases le_or_gt time c.startTime with early | started
  · rw [progress_eq_zero early]
    exact (inside later).1
  · rcases le_or_gt c.endTime later with ended | running
    · rw [progress_eq_one (started.trans_le less) ended]
      exact (inside time).2
    · rw [progress_of_between started (less.trans_lt running),
        progress_of_between (started.trans_le less) running]
      have length : 0 ≤ c.endTime - c.startTime := by linarith
      exact Easing.apply_mono kind (div_le_div_of_nonneg_right (by linarith) length)

theorem valueAt_mono (kind : c.easing.isPower = true) (up : c.startValue ≤ c.endValue) :
    Monotone (c.valueAt : Rat → Rat) := fun time later less => by
  rw [valueAt_eq_progress, valueAt_eq_progress]
  have further := mul_le_mul_of_nonneg_left (progress_mono kind less) (sub_nonneg.2 up)
  linarith

theorem valueAt_antitone (kind : c.easing.isPower = true) (down : c.endValue ≤ c.startValue) :
    Antitone (c.valueAt : Rat → Rat) := fun time later less => by
  rw [valueAt_eq_progress, valueAt_eq_progress]
  have further := mul_le_mul_of_nonpos_left (progress_mono kind less) (sub_nonpos.2 down)
  linarith

/-- A number that moves evenly, by a power or in bounces divides by no zero, keeps between its
values and has the first until the start and the second from the end on. Unless it bounces it never
turns back. -/
theorem valueAt_between (c : Command Rat Rat) (kind : c.easing.isPowerOrBounce = true)
    (time : Rat) :
    c.checked.valueAt (.of time) = .of (c.valueAt time) ∧
      (min c.startValue c.endValue ≤ c.valueAt time ∧
        c.valueAt time ≤ max c.startValue c.endValue) ∧
      (time ≤ c.startTime → c.valueAt time = c.startValue) ∧
      (c.startTime < time → c.endTime ≤ time → c.valueAt time = c.endValue) ∧
      (c.easing.isPower = true → ∀ later, time ≤ later →
        (c.startValue ≤ c.endValue → c.valueAt time ≤ c.valueAt later) ∧
          (c.endValue ≤ c.startValue → c.valueAt later ≤ c.valueAt time)) := by
  refine ⟨valueAt_checked c time, ?between, ?before, ?after, ?steady⟩
  case between =>
    rw [valueAt_eq_progress]
    exact blend_between (progress_mem kind time)
  case before =>
    intro early
    rw [valueAt_eq_progress, progress_eq_zero early, mul_zero, add_zero]
  case after =>
    intro started ended
    rw [valueAt_eq_progress, progress_eq_one started ended, mul_one, add_sub_cancel]
  case steady =>
    exact fun power later less =>
      ⟨fun up => valueAt_mono power up less, fun down => valueAt_antitone power down less⟩

omit [Transcendental Rat] in
theorem valueAt_between_quad :
    let _ : Transcendental Rat := ⟨fun _ => 0, fun _ => 1, fun _ => 0⟩
    let c : Command Rat Rat := ⟨.inOutQuad, 0, 100, 20, 12⟩
    c.checked.valueAt (.of 25) = .of 19 ∧ (12 ≤ c.valueAt 25 ∧ c.valueAt 25 ≤ 20) ∧
      c.valueAt 60 ≤ c.valueAt 25 ∧ c.valueAt (-5) = 20 ∧ c.valueAt 100 = 12 := by
  intro _ c
  have value : c.valueAt 25 = 19 := by
    norm_num [c, valueAt_eq_progress, progress, Easing.apply_eq, Easing.parts?, Easing.clamp_eq,
      Easing.Direction.turn, Easing.accelerateThenDecelerate_eq, Easing.accelerate_eq,
      Easing.Shape.decelerate, Easing.square]
  obtain ⟨result, ⟨low, high⟩, -, -, steady⟩ := valueAt_between c (by decide) 25
  have before := (valueAt_between c (by decide) (-5)).2.2.1 (by norm_num [c])
  have after := (valueAt_between c (by decide) 100).2.2.2.1 (by norm_num [c]) le_rfl
  have back := (steady (by decide) 60 (by norm_num)).2 (by norm_num [c])
  exact ⟨value ▸ result, ⟨(min_eq_right (by norm_num [c])).symm.trans_le low,
    high.trans_eq (max_eq_left (by norm_num [c]))⟩, back, before, after⟩

end Command

end Storyboard
