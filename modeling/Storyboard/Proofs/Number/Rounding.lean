import Mathlib.Data.Rat.Floor
import Mathlib.Tactic.Linarith
import Mathlib.Tactic.NormNum
import Storyboard.Number.Rounding
import Storyboard.Proofs.Number.Ordered

/-! # Rounding to places

A number is rounded to whole units of the last place that is kept. The units of a size are its floor
or one more, decided by one turning point of the part above the floor, which the tolerance for ties
moves below one half. Numbers below zero are rounded as their opposites are. From this follow that
rounding keeps the order of numbers, and which multiples of the unit it leaves as they are.
-/

namespace Storyboard

/-! ## Whole parts -/

theorem truncRat_of_nonneg {q : Rat} (nonneg : 0 ≤ q) : truncRat q = ⌊q⌋ := by
  rw [truncRat, Int.tdiv_eq_ediv_of_nonneg (Rat.num_nonneg.mpr nonneg), ← Rat.floor_def']

theorem truncRat_neg (q : Rat) : truncRat (-q) = -truncRat q := by simp [truncRat, Int.neg_tdiv]

namespace Scalar

theorem magnitude_rat (x : Rat) : magnitude x = |x| := by
  unfold magnitude
  norm_num
  split_ifs with negative
  · exact (abs_of_neg negative).symm
  · exact (abs_of_nonneg (not_lt.mp negative)).symm

theorem trunc_of_nonneg {x : Rat} (nonneg : 0 ≤ x) : trunc x = ⌊x⌋ :=
  congrArg Int.cast (truncRat_of_nonneg nonneg)

theorem trunc_neg (x : Rat) : trunc (-x) = -trunc x := by
  change (truncRat (-x) : Rat) = -(truncRat x : Rat)
  rw [truncRat_neg, Int.cast_neg]

theorem fraction_of_nonneg {x : Rat} (nonneg : 0 ≤ x) : fraction x = Int.fract x := by
  rw [fraction, trunc_of_nonneg nonneg, Int.self_sub_floor]

theorem fraction_neg (x : Rat) : fraction (-x) = -fraction x := by
  rw [fraction, fraction, trunc_neg]
  ring

theorem roundAway_of_nonneg {x : Rat} (nonneg : 0 ≤ x) :
    roundAway x = if 1 / 2 ≤ Int.fract x then (⌊x⌋ + 1 : Rat) else ⌊x⌋ := by
  have part : |Int.fract x| = Int.fract x := abs_of_nonneg (Int.fract_nonneg x)
  rw [roundAway, fraction_of_nonneg nonneg, magnitude_rat, part, trunc_of_nonneg nonneg]
  norm_num [not_lt.mpr nonneg]

/-- A number has a part after the point only on one side of zero. -/
theorem roundAway_neg (x : Rat) : roundAway (-x) = -roundAway x := by
  unfold roundAway
  rw [fraction_neg, magnitude_rat, magnitude_rat, abs_neg, trunc_neg]
  norm_num
  by_cases far : 1 / 2 ≤ |fraction x|
  · have apart : x ≠ 0 := by
      rintro rfl
      rw [fraction_of_nonneg le_rfl, Int.fract_zero] at far
      norm_num at far
    rcases lt_or_gt_of_ne apart with negative | positive
    · rw [if_pos far, if_pos far, if_pos negative, if_neg (not_lt.mpr negative.le)]
      ring
    · rw [if_pos far, if_pos far, if_pos positive, if_neg (not_lt.mpr positive.le)]
      ring
  · rw [if_neg far, if_neg far]

end Scalar

/-- The tolerance around a tie grows with the number, from one on. -/
theorem tieTolerance_rat (size : Rat) : tieTolerance size = max size 1 / 2 ^ 50 := by
  have unit : (Scalar.ofNat 0x4000000000000 : Rat) = 2 ^ 50 := by
    change ((0x4000000000000 : Nat) : Rat) = 2 ^ 50
    norm_num
  have greater : Scalar.max size 1.0 = max size 1 := by
    simp only [Scalar.max, Scalar.isNaN]
    norm_num
    split_ifs with less
    · exact (max_eq_right less.le).symm
    · exact (max_eq_left (not_lt.mp less)).symm
  rw [tieTolerance, unit, greater]
  norm_num
  ring

theorem snapToTie_of_nonneg {x : Rat} (nonneg : 0 ≤ x) :
    snapToTie x = if |Int.fract x - 1 / 2| ≤ max x 1 / 2 ^ 50 then (⌊x⌋ + 1 / 2 : Rat) else x := by
  have size : Scalar.magnitude x = x := by rw [Scalar.magnitude_rat, abs_of_nonneg nonneg]
  simp only [snapToTie, size, Scalar.fraction_of_nonneg nonneg, tieTolerance_rat,
    Scalar.magnitude_rat, Scalar.trunc_of_nonneg nonneg]
  norm_num [not_lt.mpr nonneg]

theorem snapToTie_zero : snapToTie (0 : Rat) = 0 := by
  rw [snapToTie_of_nonneg le_rfl]
  norm_num

/-- Numbers below zero are moved onto ties like those above it. -/
theorem snapToTie_neg (x : Rat) : snapToTie (-x) = -snapToTie x := by
  rcases eq_or_ne x 0 with rfl | apart
  · simp [snapToTie_zero]
  · unfold snapToTie
    rw [Scalar.magnitude_rat, Scalar.magnitude_rat, abs_neg]
    norm_num
    rcases lt_or_gt_of_ne apart with negative | positive
    · simp only [negative, if_true, if_neg (not_lt.mpr negative.le)]
      split_ifs <;> ring
    · simp only [positive, if_true, if_neg (not_lt.mpr positive.le)]
      split_ifs <;> ring

/-! ## Whole units -/

/-- The part of a unit from which on a size goes up. -/
def turningPoint (size : Rat) : Rat := 1 / 2 - max size 1 / 2 ^ 50

def wholeUnits (size : Rat) : Int :=
  if turningPoint size ≤ Int.fract size then ⌊size⌋ + 1 else ⌊size⌋

/-- Whether a size lies next to a tie or past it, it goes up. -/
theorem roundAway_snapToTie {size : Rat} (nonneg : 0 ≤ size) :
    Scalar.roundAway (snapToTie size) = wholeUnits size := by
  have tolerance : 0 < max size 1 / 2 ^ 50 := by positivity
  rw [snapToTie_of_nonneg nonneg]
  unfold wholeUnits turningPoint
  split_ifs with near up up
  · have tie : Int.fract (⌊size⌋ + 1 / 2 : Rat) = 1 / 2 := by
      rw [Int.fract_intCast_add]
      norm_num
    have below : ⌊(⌊size⌋ + 1 / 2 : Rat)⌋ = ⌊size⌋ := by
      rw [Int.floor_intCast_add]
      norm_num
    have positive : (0 : Rat) ≤ ⌊size⌋ + 1 / 2 := by
      have whole : (0 : Rat) ≤ ⌊size⌋ := by exact_mod_cast Int.floor_nonneg.mpr nonneg
      linarith
    rw [Scalar.roundAway_of_nonneg positive, tie, below, if_pos le_rfl]
    push_cast
    rfl
  · exact absurd (by linarith [(abs_le.mp near).1]) up
  · have past : 1 / 2 ≤ Int.fract size := by
      by_contra less
      refine near (abs_le.mpr ⟨by linarith, by linarith⟩)
    rw [Scalar.roundAway_of_nonneg nonneg, if_pos past]
    push_cast
    rfl
  · rw [Scalar.roundAway_of_nonneg nonneg, if_neg (by linarith)]

/-- The whole units that a number is rounded to, on its own side of zero. -/
def signedUnits (x : Rat) : Int := if x < 0 then -wholeUnits (-x) else wholeUnits x

theorem roundAway_snapToTie_eq (x : Rat) : Scalar.roundAway (snapToTie x) = signedUnits x := by
  unfold signedUnits
  split_ifs with negative
  · have size := roundAway_snapToTie (neg_nonneg.mpr negative.le)
    rw [snapToTie_neg, Scalar.roundAway_neg] at size
    rw [Int.cast_neg, ← size, neg_neg]
  · exact roundAway_snapToTie (not_lt.mp negative)

/-- How many units of the last place that is kept make one. -/
def unitsPerOne (places : Nat) : Rat := 10 ^ min places maxPlaces

theorem unitsPerOne_pos (places : Nat) : 0 < unitsPerOne places := by
  unfold unitsPerOne
  positivity

/-- Rounding is done in whole units of the last place. -/
theorem roundTo_eq (x : Rat) (places : Nat) :
    roundTo x places = signedUnits (x * unitsPerOne places) / unitsPerOne places := by
  have scale : (Scalar.ofNat (Nat.pow 10 (min places maxPlaces)) : Rat) = unitsPerOne places :=
    Nat.cast_pow 10 _
  have known : (Scalar.rational? x).isNone = false := rfl
  rw [roundTo, known, if_neg Bool.false_ne_true, scale]
  simp only [roundAway_snapToTie_eq]
  split_ifs with zero
  · exact (Scalar.eq_of_same zero).symm
  · rfl

/-! ## The order of numbers -/

theorem floor_le_wholeUnits (size : Rat) : ⌊size⌋ ≤ wholeUnits size := by
  unfold wholeUnits
  split_ifs <;> omega

theorem wholeUnits_le (size : Rat) : wholeUnits size ≤ ⌊size⌋ + 1 := by
  unfold wholeUnits
  split_ifs <;> omega

/-- Of two sizes in one unit, the greater one has more of a part and turns sooner. -/
theorem wholeUnits_mono {x y : Rat} (ordered : x ≤ y) : wholeUnits x ≤ wholeUnits y := by
  rcases (Int.floor_mono ordered).lt_or_eq with apart | same
  · calc wholeUnits x ≤ ⌊x⌋ + 1 := wholeUnits_le x
      _ ≤ ⌊y⌋ := apart
      _ ≤ wholeUnits y := floor_le_wholeUnits y
  · have part : Int.fract x ≤ Int.fract y := by
      have below : (⌊x⌋ : Rat) = ⌊y⌋ := congrArg _ same
      rw [Int.fract, Int.fract, below]
      linarith
    have sooner : turningPoint y ≤ turningPoint x := by
      unfold turningPoint
      gcongr
    unfold wholeUnits
    rw [same]
    split_ifs with up up'
    · rfl
    · exact absurd (by linarith) up'
    · omega
    · rfl

theorem wholeUnits_nonneg {x : Rat} (nonneg : 0 ≤ x) : 0 ≤ wholeUnits x :=
  (Int.floor_nonneg.mpr nonneg).trans (floor_le_wholeUnits x)

theorem signedUnits_mono {x y : Rat} (ordered : x ≤ y) : signedUnits x ≤ signedUnits y := by
  unfold signedUnits
  split_ifs with negative negative'
  · exact neg_le_neg (wholeUnits_mono (neg_le_neg ordered))
  · have left := wholeUnits_nonneg (neg_nonneg.mpr negative.le)
    have right := wholeUnits_nonneg (not_lt.mp negative')
    omega
  · exact absurd (ordered.trans_lt ‹y < 0›) negative
  · exact wholeUnits_mono ordered

theorem roundToInteger_eq (x : Rat) :
    roundToInteger x = max leastInteger (min greatestInteger (signedUnits x)) := by
  have whole : roundTo x 0 = signedUnits x := by
    rw [roundTo_eq]
    simp [unitsPerOne]
  have same (n : Int) : truncRat n = n := by simp [truncRat]
  change max leastInteger (min greatestInteger (truncRat (roundTo x 0))) = _
  rw [whole, same]

theorem roundToInteger_mono {x y : Rat} (ordered : x ≤ y) :
    roundToInteger x ≤ roundToInteger y := by
  rw [roundToInteger_eq, roundToInteger_eq]
  have units := signedUnits_mono ordered
  gcongr

/-! ## Multiples of a unit -/

/-- A multiple of the unit of the last place that is kept. -/
def OnGrid (places : Nat) (x : Rat) : Prop := ∃ n : Int, x = n / unitsPerOne places

theorem onGrid_roundTo (x : Rat) (places : Nat) : OnGrid places (roundTo x places) :=
  ⟨_, roundTo_eq x places⟩

/-- From `2 ^ 49` units on, the tolerance of a whole size reaches half a unit. -/
theorem wholeUnits_intCast (n : Int) : wholeUnits n = if n < 2 ^ 49 then n else n + 1 := by
  have turns : turningPoint n ≤ 0 ↔ ¬ n < 2 ^ 49 := by
    have limit : ((1 : Rat) / 2 ≤ max (n : Rat) 1 / 2 ^ 50) ↔ (2 ^ 49 : Rat) ≤ n := by
      rw [le_div_iff₀ (by positivity), le_max_iff]
      norm_num
    rw [turningPoint, sub_nonpos, limit, not_lt]
    exact_mod_cast Iff.rfl
  simp only [wholeUnits, Int.fract_intCast, Int.floor_intCast, turns, ite_not]

theorem signedUnits_intCast (n : Int) :
    signedUnits n = if |n| < 2 ^ 49 then n else if n < 0 then n - 1 else n + 1 := by
  have cast : (n : Rat) < 0 ↔ n < 0 := Int.cast_lt_zero
  simp only [signedUnits, cast]
  by_cases negative : n < 0
  · rw [if_pos negative, if_pos negative, ← Int.cast_neg, wholeUnits_intCast, abs_of_neg negative]
    split_ifs <;> omega
  · rw [if_neg negative, if_neg negative, wholeUnits_intCast, abs_of_nonneg (not_lt.mp negative)]

/-- A number is so near to zero that the tolerance does not reach half a unit. -/
def IsSteady (places : Nat) (x : Rat) : Prop := |x| * unitsPerOne places < 2 ^ 49

instance (places : Nat) (x : Rat) : Decidable (IsSteady places x) :=
  inferInstanceAs (Decidable (_ < _))

/-- A multiple of the unit stays, or is moved by one unit away from zero. -/
theorem roundTo_of_onGrid {x : Rat} {places : Nat} (multiple : OnGrid places x) :
    roundTo x places =
      if IsSteady places x then x
      else if x < 0 then x - 1 / unitsPerOne places else x + 1 / unitsPerOne places := by
  obtain ⟨n, rfl⟩ := multiple
  have positive := unitsPerOne_pos places
  have steady : IsSteady places (n / unitsPerOne places) ↔ |n| < 2 ^ 49 := by
    unfold IsSteady
    rw [abs_div, abs_of_pos positive, div_mul_cancel₀ _ positive.ne']
    exact_mod_cast Iff.rfl
  have negative : (n / unitsPerOne places : Rat) < 0 ↔ n < 0 := by
    rw [div_neg_iff]
    simp [positive, positive.le]
  rw [roundTo_eq, div_mul_cancel₀ _ positive.ne', signedUnits_intCast]
  simp only [steady, negative]
  split_ifs
  · rfl
  · rw [Int.cast_sub, Int.cast_one, sub_div]
  · rw [Int.cast_add, Int.cast_one, add_div]

theorem roundTo_eq_self_iff {x : Rat} {places : Nat} (multiple : OnGrid places x) :
    roundTo x places = x ↔ IsSteady places x := by
  have unit : 0 < 1 / unitsPerOne places := one_div_pos.mpr (unitsPerOne_pos places)
  rw [roundTo_of_onGrid multiple]
  split_ifs with steady less
  · exact iff_of_true rfl steady
  · exact iff_of_false (by linarith) steady
  · exact iff_of_false (by linarith) steady

end Storyboard
