import Mathlib.Algebra.Order.Ring.Abs
import Mathlib.Order.Interval.Set.Basic
import Mathlib.Tactic.Linarith
import Mathlib.Tactic.Positivity
import Mathlib.Tactic.Ring
import Storyboard.Easing
import Storyboard.Proofs.Number.Checked

/-! # Where easing curves run

An even motion, the powers and the bounces keep between the start and the end of a motion, and all
but the bounces never turn back. The reflection of such a curve is one, and so is half of the
reflection followed by half of the curve. No curve divides by zero.
-/

namespace Storyboard

namespace Easing

open Set

/-- The exponent of a shape that is a power of the remaining progress. -/
def Shape.exponent? : Shape → Option Nat
  | quad => some 2
  | cubic => some 3
  | quart => some 4
  | quint => some 5
  | sine | expo | circ | elastic _ | back | bounce => none

/-- The curve runs evenly, or by a power. -/
def isPower (e : Easing) : Bool := e.parts?.all fun part => part.1.exponent?.isSome

/-- The curve runs evenly, by a power or in bounces. -/
def isPowerOrBounce (e : Easing) : Bool :=
  e.parts?.all fun part => part.1 = .bounce || part.1.exponent?.isSome

theorem isPowerOrBounce_of_isPower {e : Easing} (kind : e.isPower = true) :
    e.isPowerOrBounce = true := by
  rw [isPower, Option.all_eq_true] at kind
  rw [isPowerOrBounce, Option.all_eq_true]
  intro part mem
  rw [kind part mem, Bool.or_true]

example : all.filter isPowerOrBounce =
    [.linear, .easeOut, .easeIn, .inQuad, .outQuad, .inOutQuad, .inCubic, .outCubic, .inOutCubic,
      .inQuart, .outQuart, .inOutQuart, .inQuint, .outQuint, .inOutQuint,
      .inBounce, .outBounce, .inOutBounce] := by
  decide

/-! ## Progress -/

theorem clamp_eq (t : Rat) : clamp t = max 0 (min t 1) := by
  unfold clamp
  norm_num
  grind

theorem clamp_mem (t : Rat) : clamp t ∈ Icc 0 1 := by
  rw [clamp_eq]
  exact ⟨le_max_left _ _, max_le zero_le_one (min_le_right _ _)⟩

theorem clamp_mono : Monotone (clamp : Rat → Rat) := fun s t less => by
  rw [clamp_eq, clamp_eq]
  exact max_le_max le_rfl (min_le_min less le_rfl)

/-! ## Reflections and halves -/

section Halves

variable {f : Rat → Rat} {t : Rat}

theorem accelerate_eq : accelerate f t = 1 - f (1 - t) := by
  norm_num [accelerate]

theorem accelerateThenDecelerate_eq : accelerateThenDecelerate f t =
    if t < 1 / 2 then accelerate f (2 * t) / 2 else f (2 * t - 1) / 2 + 1 / 2 := by
  norm_num [accelerateThenDecelerate, div_eq_mul_inv]

theorem mapsTo_accelerate (within : MapsTo f (Icc 0 1) (Icc 0 1)) :
    MapsTo (accelerate f) (Icc 0 1) (Icc 0 1) := by
  rintro t ⟨first, last⟩
  obtain ⟨low, high⟩ := within (⟨by linarith, by linarith⟩ : 1 - t ∈ Icc 0 1)
  rw [accelerate_eq]
  exact ⟨by linarith, by linarith⟩

theorem monotoneOn_accelerate (mono : MonotoneOn f (Icc 0 1)) :
    MonotoneOn (accelerate f) (Icc 0 1) := by
  rintro s ⟨first, last⟩ t ⟨first', last'⟩ less
  have reflected : f (1 - t) ≤ f (1 - s) :=
    mono ⟨by linarith, by linarith⟩ ⟨by linarith, by linarith⟩ (by linarith)
  rw [accelerate_eq, accelerate_eq]
  linarith

/-- The first half of progress leads to the middle at most, the second half from there on. -/
theorem accelerateThenDecelerate_mem (within : MapsTo f (Icc 0 1) (Icc 0 1))
    (inside : t ∈ Icc 0 1) :
    accelerateThenDecelerate f t ∈ if t < 1 / 2 then Icc 0 (1 / 2) else Icc (1 / 2) 1 := by
  obtain ⟨first, last⟩ := inside
  rw [accelerateThenDecelerate_eq]
  split_ifs with early
  · obtain ⟨low, high⟩ :=
      mapsTo_accelerate within (⟨by linarith, by linarith⟩ : 2 * t ∈ Icc 0 1)
    exact ⟨by linarith, by linarith⟩
  · obtain ⟨low, high⟩ := within (⟨by linarith, by linarith⟩ : 2 * t - 1 ∈ Icc 0 1)
    exact ⟨by linarith, by linarith⟩

theorem mapsTo_accelerateThenDecelerate (within : MapsTo f (Icc 0 1) (Icc 0 1)) :
    MapsTo (accelerateThenDecelerate f) (Icc 0 1) (Icc 0 1) := by
  intro t inside
  have half := accelerateThenDecelerate_mem within inside
  split_ifs at half
  · exact ⟨half.1, half.2.trans (by norm_num)⟩
  · exact ⟨le_trans (by norm_num) half.1, half.2⟩

/-- Two halves that rise make a curve that rises. -/
theorem monotoneOn_accelerateThenDecelerate (within : MapsTo f (Icc 0 1) (Icc 0 1))
    (mono : MonotoneOn f (Icc 0 1)) : MonotoneOn (accelerateThenDecelerate f) (Icc 0 1) := by
  rintro s inside t inside' less
  have before := accelerateThenDecelerate_mem within inside
  have after := accelerateThenDecelerate_mem within inside'
  by_cases early : t < 1 / 2
  · have earlier := less.trans_lt early
    have half := monotoneOn_accelerate mono
      (⟨by linarith [inside.1], by linarith⟩ : 2 * s ∈ Icc 0 1)
      (⟨by linarith [inside'.1], by linarith⟩ : 2 * t ∈ Icc 0 1) (by linarith)
    rw [accelerateThenDecelerate_eq, accelerateThenDecelerate_eq, if_pos early, if_pos earlier]
    linarith
  · rw [if_neg early] at after
    by_cases earlier : s < 1 / 2
    -- The curve has come to the middle between the two.
    · rw [if_pos earlier] at before
      exact before.2.trans after.1
    · have half := mono (⟨by linarith, by linarith [inside.2]⟩ : 2 * s - 1 ∈ Icc 0 1)
        (⟨by linarith, by linarith [inside'.2]⟩ : 2 * t - 1 ∈ Icc 0 1) (by linarith)
      rw [accelerateThenDecelerate_eq, accelerateThenDecelerate_eq, if_neg early, if_neg earlier]
      linarith

end Halves

/-! ## Powers -/

section Shapes

variable [Transcendental Rat] {shape : Shape} {n : Nat}

theorem decelerate_eq_pow (power : shape.exponent? = some n) (t : Rat) :
    shape.decelerate t = 1 - (1 - t) ^ n := by
  cases shape with
  | quad | cubic | quart | quint =>
    cases power
    norm_num [Shape.decelerate, square]
    ring
  | sine | expo | circ | elastic _ | back | bounce => cases power

theorem mapsTo_power (power : shape.exponent? = some n) :
    MapsTo (shape.decelerate : Rat → Rat) (Icc 0 1) (Icc 0 1) := by
  rintro t ⟨first, last⟩
  have low : 0 ≤ (1 - t) ^ n := pow_nonneg (by linarith) n
  have high : (1 - t) ^ n ≤ 1 := pow_le_one₀ (by linarith) (by linarith)
  rw [decelerate_eq_pow power]
  exact ⟨by linarith, by linarith⟩

theorem monotoneOn_power (power : shape.exponent? = some n) :
    MonotoneOn (shape.decelerate : Rat → Rat) (Icc 0 1) := by
  rintro s ⟨first, last⟩ t ⟨first', last'⟩ less
  have remaining : (1 - t) ^ n ≤ (1 - s) ^ n := pow_le_pow_left₀ (by linarith) (by linarith) n
  rw [decelerate_eq_pow power, decelerate_eq_pow power]
  linarith

end Shapes

/-! ## Bounces -/

/-- An arc that reaches its height at a distance from its centre stays below it nearer by. -/
theorem arc_le (reach : Rat) {t centre height : Rat} (left : centre - reach ≤ t)
    (right : t ≤ centre + reach) (meets : 121 / 16 * reach ^ 2 + height = 1) :
    121 / 16 * (t - centre) ^ 2 + height ≤ 1 := by
  have near : (t - centre) ^ 2 ≤ reach ^ 2 := sq_le_sq' (by linarith) (by linarith)
  linarith

theorem bounceOut_eq (t : Rat) : bounceOut t =
    if t < 4 / 11 then 121 / 16 * (t - 0) ^ 2 + 0
    else if t < 8 / 11 then 121 / 16 * (t - 6 / 11) ^ 2 + 3 / 4
    else if t < 10 / 11 then 121 / 16 * (t - 9 / 11) ^ 2 + 15 / 16
    else 121 / 16 * (t - 21 / 22) ^ 2 + 63 / 64 := by
  norm_num [bounceOut, pow_two, mul_assoc]

/-- Every arc meets the next one at full height, and the last one ends there. -/
theorem mapsTo_bounce : MapsTo (bounceOut : Rat → Rat) (Icc 0 1) (Icc 0 1) := by
  rintro t ⟨first, last⟩
  rw [bounceOut_eq]
  split_ifs
  · exact ⟨by positivity, arc_le (4 / 11) (by linarith) (by linarith) (by norm_num)⟩
  · exact ⟨by positivity, arc_le (2 / 11) (by linarith) (by linarith) (by norm_num)⟩
  · exact ⟨by positivity, arc_le (1 / 11) (by linarith) (by linarith) (by norm_num)⟩
  · exact ⟨by positivity, arc_le (1 / 22) (by linarith) (by linarith) (by norm_num)⟩

/-! ## All curves -/

/-- How a direction uses a shape. -/
def Direction.turn {R : Type} [Scalar R] (direction : Direction) (out : R → R) : R → R :=
  match direction with
  | .accelerate => Easing.accelerate out
  | .decelerate => out
  | .both => accelerateThenDecelerate out

/-- Every curve is a shape in a direction, or even. -/
theorem apply_eq {R : Type} [Scalar R] [Transcendental R] (e : Easing) (t : R) :
    e.apply t = match e.parts? with
      | none => clamp t
      | some (shape, direction) => direction.turn shape.decelerate (clamp t) := by
  rw [apply]
  split
  · next even => rw [even]
  all_goals
    next parts =>
    rw [parts]
    rfl

theorem mapsTo_turn {f : Rat → Rat} (within : MapsTo f (Icc 0 1) (Icc 0 1))
    (direction : Direction) : MapsTo (direction.turn f) (Icc 0 1) (Icc 0 1) := by
  cases direction with
  | accelerate => exact mapsTo_accelerate within
  | decelerate => exact within
  | both => exact mapsTo_accelerateThenDecelerate within

theorem monotoneOn_turn {f : Rat → Rat} (within : MapsTo f (Icc 0 1) (Icc 0 1))
    (mono : MonotoneOn f (Icc 0 1)) (direction : Direction) :
    MonotoneOn (direction.turn f) (Icc 0 1) := by
  cases direction with
  | accelerate => exact monotoneOn_accelerate mono
  | decelerate => exact mono
  | both => exact monotoneOn_accelerateThenDecelerate within mono

section Apply

variable [Transcendental Rat] {e : Easing}

/-- Even motion, powers and bounces do not leave the way from the start to the end. -/
theorem apply_mem (kind : e.isPowerOrBounce = true) (t : Rat) : e.apply t ∈ Icc 0 1 := by
  rw [apply_eq]
  cases parts : e.parts? with
  | none => exact clamp_mem t
  | some part =>
    obtain ⟨shape, direction⟩ := part
    refine mapsTo_turn ?_ direction (clamp_mem t)
    simp only [isPowerOrBounce, parts, Option.all_some, Bool.or_eq_true, decide_eq_true_eq,
      Option.isSome_iff_exists] at kind
    rcases kind with rfl | ⟨n, power⟩
    · exact mapsTo_bounce
    · exact mapsTo_power power

/-- Even motion and powers do not turn back. -/
theorem apply_mono (kind : e.isPower = true) : Monotone (e.apply : Rat → Rat) := by
  intro s t less
  rw [apply_eq, apply_eq]
  cases parts : e.parts? with
  | none => exact clamp_mono less
  | some part =>
    obtain ⟨shape, direction⟩ := part
    simp only [isPower, parts, Option.all_some, Option.isSome_iff_exists] at kind
    obtain ⟨n, power⟩ := kind
    exact monotoneOn_turn (mapsTo_power power) (monotoneOn_power power) direction (clamp_mem s)
      (clamp_mem t) (clamp_mono less)

end Apply

/-! ## Divisions -/

section Divisions

variable {f : Rat → Rat} {g : Checked → Checked}

theorem clamp_of (t : Rat) : clamp (Checked.of t) = .of (clamp t) := by
  simp only [clamp, Checked.ofScientific_eq, Checked.of_lt, ← apply_ite Checked.of]

theorem accelerate_of (agree : ∀ t, g (.of t) = .of (f t)) (t : Rat) :
    accelerate g (.of t) = .of (accelerate f t) := by
  simp only [accelerate, Checked.ofScientific_eq, Checked.of_sub, agree]

theorem turn_of (agree : ∀ t, g (.of t) = .of (f t)) (direction : Direction) (t : Rat) :
    direction.turn g (.of t) = .of (direction.turn f t) := by
  cases direction with
  | accelerate => exact accelerate_of agree t
  | decelerate => exact agree t
  | both =>
    simp only [Direction.turn, accelerateThenDecelerate, Checked.ofScientific_eq, Checked.of_sub,
      Checked.of_mul, Checked.of_add, Checked.of_lt, accelerate_of agree, agree,
      ← apply_ite Checked.of]

theorem bounceOut_of (t : Rat) : bounceOut (.of t) = Checked.of (bounceOut t) := by
  have quotient (x : Rat) : Checked.of x / .of 2.75 = .of (x / 2.75) :=
    Checked.of_div (by norm_num)
  simp only [bounceOut, Checked.ofScientific_eq, quotient, Checked.of_sub, Checked.of_mul,
    Checked.of_add, Checked.of_lt, ← apply_ite Checked.of]

/-- The swinging curve takes no division by zero. -/
theorem elasticOut_of [Transcendental Rat] (quarters : Nat) (t : Rat) :
    elasticOut quarters (.of t) = Checked.of (elasticOut quarters t) := by
  have speed : (Scalar.ofNat quarters / 4.0 : Checked) = .of (Scalar.ofNat quarters / 4.0) :=
    Checked.of_div (by norm_num)
  have turns : ((Scalar.ofNat quarters / 4.0 : Checked) * .of t - 0.075) * (2.0 * halfTurn) / 0.3 =
      .of ((Scalar.ofNat quarters / 4.0 * t - 0.075) * (2.0 * halfTurn) / 0.3) := by
    rw [speed]
    exact Checked.of_div (by norm_num)
  unfold elasticOut
  dsimp only
  rw [turns]
  simp only [Checked.ofScientific_eq, Checked.of_le]
  split_ifs <;> rfl

/-- The shapes divide by fixed numbers only. -/
theorem decelerate_of [Transcendental Rat] (shape : Shape) (t : Rat) :
    shape.decelerate (.of t) = Checked.of (shape.decelerate t) := by
  cases shape with
  | quad | cubic | quart | quint | circ | back => rfl
  | sine =>
    have half : Checked.of (t * halfTurn) / .of 2.0 = .of (t * halfTurn / 2.0) :=
      Checked.of_div (by norm_num)
    exact congrArg Transcendental.sin half
  | expo =>
    simp only [Shape.decelerate, Checked.ofScientific_eq, Checked.of_le]
    split_ifs <;> rfl
  | elastic quarters => exact elasticOut_of quarters t
  | bounce => exact bounceOut_of t

theorem apply_of [Transcendental Rat] (e : Easing) (t : Rat) :
    e.apply (.of t) = Checked.of (e.apply t) := by
  rw [apply_eq, apply_eq, clamp_of]
  cases e.parts? with
  | none => rfl
  | some part => exact turn_of (decelerate_of part.1) part.2 (clamp t)

end Divisions

end Easing

end Storyboard
