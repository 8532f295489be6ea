import Storyboard.Number.Double
import Storyboard.Proofs.Number.Ordered

/-! # Laws of double precision

The total order refines the order of numbers, and a product does not depend on the order of its
factors, except that a result which is no number may have another pattern.
-/

namespace Storyboard

namespace Double

theorem le_iff (x y : Double) : x ≤ y ↔ x.isNaN = false ∧ y.isNaN = false ∧ x.place ≤ y.place :=
  .rfl

theorem lt_iff (x y : Double) : x < y ↔ x.isNaN = false ∧ y.isNaN = false ∧ x.place < y.place :=
  .rfl

theorem scalar_isNaN (x : Double) : Scalar.isNaN x = x.isNaN := by
  cases number : x.isNaN <;> simp [Scalar.isNaN, le_iff, number]

/-- Different patterns have different places. -/
theorem eq_of_rank_eq {x y : Double} (same : x.rank = y.rank) : x = y := by
  suffices bits : x.bits.toNat = y.bits.toNat by
    cases x
    cases y
    exact congrArg _ (UInt64.toNat_inj.mp bits)
  have bound := x.bits.toNat_lt
  have bound' := y.bits.toNat_lt
  unfold rank at same
  generalize x.bits.toNat = n at *
  generalize y.bits.toNat = m at *
  dsimp only at same
  split_ifs at same <;> omega

/-- The order of patterns only adds that of the two zeros. -/
theorem place_le_of_rank_le {x y : Double} (ordered : x.rank ≤ y.rank) : x.place ≤ y.place := by
  have bound := x.bits.toNat_lt
  have bound' := y.bits.toNat_lt
  unfold rank at ordered
  unfold place
  generalize x.bits.toNat = n at *
  generalize y.bits.toNat = m at *
  dsimp only at ordered ⊢
  split_ifs at ordered ⊢ <;> omega

end Double

/-- Doubles are sorted by their patterns. -/
instance : OrderedScalar Double where
  totalLE_trans first second :=
    decide_eq_true ((of_decide_eq_true first).trans (of_decide_eq_true second))
  totalLE_total x y := (le_total x.rank y.rank).imp decide_eq_true decide_eq_true
  totalLE_antisymm first second :=
    Double.eq_of_rank_eq ((of_decide_eq_true first).antisymm (of_decide_eq_true second))
  le_trans first second := ⟨first.1, second.2.1, first.2.2.trans second.2.2⟩
  lt_iff_not_le {x y} number number' := by
    rw [Double.scalar_isNaN] at number number'
    simp [Double.le_iff, Double.lt_iff, number, number']
  le_of_totalLE {x y} number number' ordered := by
    rw [Double.scalar_isNaN] at number number'
    exact ⟨number, number', Double.place_le_of_rank_le (of_decide_eq_true ordered)⟩

namespace Double

/-! ## Products -/

/-- The same number, or no number on both sides. -/
def Agree (x y : Double) : Prop := x = y ∨ x.isNaN = true ∧ y.isNaN = true

theorem isNaN_quiet {x : Double} (nan : x.isNaN = true) : x.quiet.isNaN = true := by
  have above : 0x7FF0000000000000 < x.bits.toNat &&& 0x7FFFFFFFFFFFFFFF := by
    simpa [isNaN, unsigned, UInt64.lt_iff_toNat_lt] using nan
  -- Setting a bit makes no number less.
  have kept : x.bits.toNat &&& 0x7FFFFFFFFFFFFFFF ≤
      (x.bits.toNat &&& 0x7FFFFFFFFFFFFFFF) ||| 0x0008000000000000 := Nat.left_le_or
  simpa [isNaN, unsigned, quiet, UInt64.lt_iff_toNat_lt, Nat.and_or_distrib_right] using
    above.trans_le kept

open Float.Model in
/-- A product rounds to the same number in either order. -/
theorem unpacked_mul_comm (spec : Format) (x y : UnpackedFloat) : x.mul spec y = y.mul spec x := by
  have signs (s t : UnpackedFloat.Sign) : s * t = t * s := by cases s <;> cases t <;> rfl
  cases x with
  | notANumber => cases y <;> rfl
  | infinity s =>
    cases y with
    | infinity t | finite t => exact congrArg _ (signs s t)
    | notANumber | zero => rfl
  | zero s =>
    cases y with
    | zero t | finite t => exact congrArg _ (signs s t)
    | notANumber | infinity => rfl
  | finite s m e =>
    cases y with
    | infinity t | zero t => exact congrArg _ (signs s t)
    | notANumber => rfl
    | finite t n f =>
      change UnpackedFloat.roundWithAccuracy spec (s * t) (m * n) (e + f) _ =
        UnpackedFloat.roundWithAccuracy spec (t * s) (n * m) (f + e) _
      rw [signs, Nat.mul_comm, Int.add_comm]

open Float.Model in
theorem float_mul_comm (x y : Float) : x * y = y * x :=
  congrArg (fun unpacked => Float.ofModel (pack unpacked))
    (unpacked_mul_comm .binary64 x.toModel.unpack y.toModel.unpack)

theorem agree_mul_comm (x y : Double) : Agree (x * y) (y * x) := by
  change Agree (binary (· * ·) x y) (binary (· * ·) y x)
  cases nan : x.isNaN <;> cases nan' : y.isNaN <;>
    simp [binary, nan, nan', Agree, isNaN_quiet, float_mul_comm x.toFloat]

/-- Adding to numbers that agree gives numbers that agree. -/
theorem Agree.add_left {x y : Double} (agree : Agree x y) (z : Double) : Agree (z + x) (z + y) := by
  obtain rfl | ⟨nan, nan'⟩ := agree
  · exact .inl rfl
  · change Agree (binary (· + ·) z x) (binary (· + ·) z y)
    cases nan'' : z.isNaN <;> simp [binary, nan, nan', nan'', Agree, isNaN_quiet]

end Double

end Storyboard
