import Mathlib.Data.List.Forall2
import Mathlib.Data.Option.Basic
import Mathlib.Algebra.Order.Ring.Rat
import Storyboard.Number.Scalar

/-! # The order of numbers

Sorting compares by a total order, everything else by the order of numbers. The first refines the
second on what is a number, and the least and the greatest of some numbers are what their names say,
so that they can be taken part by part.
-/

namespace Storyboard

/-- The two orders of numbers and how they fit together. -/
class OrderedScalar (R : Type) [Scalar R] : Prop where
  totalLE_trans {x y z : R} :
    Scalar.totalLE x y = true → Scalar.totalLE y z = true → Scalar.totalLE x z = true
  totalLE_total (x y : R) : Scalar.totalLE x y = true ∨ Scalar.totalLE y x = true
  totalLE_antisymm {x y : R} : Scalar.totalLE x y = true → Scalar.totalLE y x = true → x = y
  le_trans {x y z : R} : x ≤ y → y ≤ z → x ≤ z
  lt_iff_not_le {x y : R} : Scalar.isNaN x = false → Scalar.isNaN y = false → (x < y ↔ ¬ y ≤ x)
  /-- Sorting does not place a number before a lesser one. -/
  le_of_totalLE {x y : R} :
    Scalar.isNaN x = false → Scalar.isNaN y = false → Scalar.totalLE x y = true → x ≤ y

/-- Rational numbers are sorted by their order. -/
instance : OrderedScalar Rat where
  totalLE_trans first second :=
    decide_eq_true ((of_decide_eq_true first).trans (of_decide_eq_true second))
  totalLE_total x y := (le_total x y).imp decide_eq_true decide_eq_true
  totalLE_antisymm first second := (of_decide_eq_true first).antisymm (of_decide_eq_true second)
  le_trans first second := first.trans second
  lt_iff_not_le _ _ := not_le.symm
  le_of_totalLE _ _ ordered := of_decide_eq_true ordered

namespace Scalar

@[simp] theorem isNaN_rat (x : Rat) : isNaN x = false := by simp [isNaN]

theorem eq_of_same {x y : Rat} (equal : same x y = true) : x = y := by
  simp only [same, Bool.and_eq_true, decide_eq_true_eq] at equal
  exact le_antisymm equal.1 equal.2

variable {R : Type} [Scalar R]

theorem le_refl_iff {x : R} : x ≤ x ↔ isNaN x = false := by simp [isNaN]

variable [OrderedScalar R] {x y : R}

theorem le_total (number : isNaN x = false) (number' : isNaN y = false) : x ≤ y ∨ y ≤ x :=
  (OrderedScalar.totalLE_total x y).imp (OrderedScalar.le_of_totalLE number number')
    (OrderedScalar.le_of_totalLE number' number)

theorem not_lt_iff (number : isNaN x = false) (number' : isNaN y = false) : ¬ x < y ↔ y ≤ x := by
  rw [OrderedScalar.lt_iff_not_le number number', not_not]

theorem le_of_lt (number : isNaN x = false) (number' : isNaN y = false) (less : x < y) : x ≤ y :=
  (le_total number number').resolve_right ((OrderedScalar.lt_iff_not_le number number').mp less)

/-! ## Windows -/

section Windows

variable {v w : R × R}

theorem windowLE_iff_lex : windowLE v w = true ↔
    totalLE v.1 w.1 = true ∧ (v.1 = w.1 → totalLE v.2 w.2 = true) := by
  have tied : totalLE v.1 w.1 = true → (totalLE w.1 v.1 = true ↔ v.1 = w.1) := by
    refine fun ordered => ⟨OrderedScalar.totalLE_antisymm ordered, fun same => ?_⟩
    rwa [← same] at ordered ⊢
  simp only [windowLE, Bool.and_eq_true, Bool.or_eq_true, Bool.not_eq_true']
  refine and_congr_right fun ordered => ?_
  rw [← tied ordered, ← Bool.not_eq_true, imp_iff_not_or]

theorem windowLE_trans (v w u : R × R) (first : windowLE v w = true)
    (second : windowLE w u = true) : windowLE v u = true := by
  rw [windowLE_iff_lex] at first second ⊢
  refine ⟨OrderedScalar.totalLE_trans first.1 second.1, fun same => ?_⟩
  -- The start between two equal ones is the same, too.
  have between : v.1 = w.1 :=
    OrderedScalar.totalLE_antisymm first.1 (same ▸ second.1)
  exact OrderedScalar.totalLE_trans (first.2 between) (second.2 (between ▸ same))

theorem windowLE_total (v w : R × R) : (windowLE v w || windowLE w v) = true := by
  rw [Bool.or_eq_true, windowLE_iff_lex, windowLE_iff_lex]
  by_cases same : v.1 = w.1
  · have reflexive := (OrderedScalar.totalLE_total w.1 w.1).elim id id
    simpa [same, reflexive] using OrderedScalar.totalLE_total v.2 w.2
  · simpa [same, Ne.symm same] using OrderedScalar.totalLE_total v.1 w.1

theorem windowLE_antisymm (first : windowLE v w = true) (second : windowLE w v = true) : v = w := by
  rw [windowLE_iff_lex] at first second
  have starts : v.1 = w.1 := OrderedScalar.totalLE_antisymm first.1 second.1
  exact Prod.ext starts (OrderedScalar.totalLE_antisymm (first.2 starts) (second.2 starts.symm))

end Windows

/-! ## The least and the greatest number -/

/-- One of some numbers that is related to all of them, or nothing if there are none. -/
def IsExtreme (rel : R → R → Prop) (numbers : List R) : Option R → Prop
  | none => numbers = []
  | some m => m ∈ numbers ∧ ∀ x ∈ numbers, rel m x

section Extremes

variable {rel : R → R → Prop} {numbers : List R}

omit [Scalar R] [OrderedScalar R] in
/-- Where there is a number, there is an extreme one, related to it. -/
theorem IsExtreme.exists_rel {m : Option R} {x : R} (held : IsExtreme rel numbers m)
    (member : x ∈ numbers) : ∃ k, m = some k ∧ rel k x := by
  cases m with
  | none => exact absurd (held ▸ member) List.not_mem_nil
  | some k => exact ⟨k, rfl, held.2 x member⟩

omit [OrderedScalar R] in
/-- A fold that keeps the one of two numbers which is related to both keeps one that is related to
all. -/
theorem isExtreme_foldl (rel : R → R → Prop) {pick : R → R → R}
    (trans : ∀ {x y z}, rel x y → rel y z → rel x z)
    (picks : ∀ {x y}, isNaN x = false → isNaN y = false →
      (pick x y = x ∨ pick x y = y) ∧ rel (pick x y) x ∧ rel (pick x y) y)
    {first : R} {rest : List R} (real : ∀ x ∈ first :: rest, isNaN x = false) :
    IsExtreme rel (first :: rest) (some (rest.foldl pick first)) := by
  induction rest generalizing first with
  | nil =>
    obtain ⟨kept, reflexive, _⟩ := picks (real first (by simp)) (real first (by simp))
    simpa [IsExtreme, kept.elim id id] using reflexive
  | cons next rest ih =>
    obtain ⟨kept, left, right⟩ := picks (real first (by simp)) (real next (by simp))
    have among : pick first next ∈ first :: next :: rest := by
      rcases kept with kept | kept <;> simp [kept]
    have real' : ∀ x ∈ pick first next :: rest, isNaN x = false :=
      List.forall_mem_cons.mpr ⟨real _ among, fun x member => real x (by simp [member])⟩
    obtain ⟨member, related⟩ := ih real'
    have toPick := related (pick first next) (List.mem_cons_self ..)
    refine ⟨?_, ?_⟩
    · rcases List.mem_cons.mp member with same | later
      · exact List.foldl_cons .. ▸ same ▸ among
      · exact List.mem_cons_of_mem _ (List.mem_cons_of_mem _ later)
    · refine List.forall_mem_cons.mpr ⟨trans toPick left, ?_⟩
      refine List.forall_mem_cons.mpr ⟨trans toPick right, fun x later => ?_⟩
      exact related x (List.mem_cons_of_mem _ later)

/-- The least of some numbers is one of them, and none is less. -/
theorem isExtreme_least? (real : ∀ x ∈ numbers, isNaN x = false) :
    IsExtreme (fun m x => m ≤ x) numbers (least? numbers) := by
  cases numbers with
  | nil => rfl
  | cons first rest =>
    refine isExtreme_foldl (fun m x => m ≤ x) OrderedScalar.le_trans
      (fun {x y} number number' => ?_) real
    rw [min, if_neg (by simp [number])]
    split
    · next less => exact ⟨.inr rfl, le_of_lt number' number less, le_refl_iff.mpr number'⟩
    · next more => exact ⟨.inl rfl, le_refl_iff.mpr number, (not_lt_iff number' number).mp more⟩

/-- The greatest of some numbers is one of them, and none is greater. -/
theorem isExtreme_greatest? (real : ∀ x ∈ numbers, isNaN x = false) :
    IsExtreme (fun m x => x ≤ m) numbers (greatest? numbers) := by
  cases numbers with
  | nil => rfl
  | cons first rest =>
    refine isExtreme_foldl (fun m x => x ≤ m) (fun up down => OrderedScalar.le_trans down up)
      (fun {x y} number number' => ?_) real
    rw [max, if_neg (by simp [number])]
    split
    · next less => exact ⟨.inr rfl, le_of_lt number number' less, le_refl_iff.mpr number'⟩
    · next more => exact ⟨.inl rfl, le_refl_iff.mpr number, (not_lt_iff number number').mp more⟩

omit [OrderedScalar R] in
/-- The extreme of the extremes of some parts is that of the whole. -/
theorem IsExtreme.flatten (rel : R → R → Prop) {extreme? : List R → Option R}
    (trans : ∀ {x y z}, rel x y → rel y z → rel x z)
    (sound : ∀ {xs}, (∀ x ∈ xs, isNaN x = false) → IsExtreme rel xs (extreme? xs))
    {parts : List (List R)} (real : ∀ x ∈ parts.flatten, isNaN x = false) :
    IsExtreme rel parts.flatten (extreme? ((parts.map extreme?).filterMap id)) := by
  have each (part) (here : part ∈ parts) : IsExtreme rel part (extreme? part) :=
    sound fun x member => real x (List.mem_flatten_of_mem here member)
  have among (m) (found : m ∈ (parts.map extreme?).filterMap id) :
      m ∈ parts.flatten ∧ ∃ part ∈ parts, extreme? part = some m := by
    obtain ⟨part, here, extreme⟩ : ∃ part ∈ parts, extreme? part = some m := by simpa using found
    have held := each part here
    rw [extreme] at held
    exact ⟨List.mem_flatten_of_mem here held.1, part, here, extreme⟩
  have whole := sound fun m found => real m (among m found).1
  generalize extreme? ((parts.map extreme?).filterMap id) = result at whole
  cases result with
  | none =>
    refine List.flatten_eq_nil_iff.mpr fun part here => ?_
    have held := each part here
    have nothing : extreme? part = none := by
      have missing := List.filterMap_eq_nil_iff.mp whole
      exact missing _ (List.mem_map_of_mem here)
    rwa [nothing] at held
  | some m =>
    refine ⟨(among m whole.1).1, fun x member => ?_⟩
    obtain ⟨part, here, inside⟩ := List.mem_flatten.mp member
    obtain ⟨k, extreme, related⟩ := (each part here).exists_rel inside
    refine trans (whole.2 k ?_) related
    exact List.mem_filterMap.mpr ⟨some k, extreme ▸ List.mem_map_of_mem here, rfl⟩

omit [Scalar R] [OrderedScalar R] in
/-- Extremes of the same numbers are related both ways. -/
theorem IsExtreme.related {numbers' : List R} {m m' : Option R} (held : IsExtreme rel numbers m)
    (held' : IsExtreme rel numbers' m') (same : ∀ x, x ∈ numbers ↔ x ∈ numbers') :
    Option.Rel (fun x y => rel x y ∧ rel y x) m m' := by
  cases m with
  | none =>
    cases m' with
    | none => exact .none
    | some y =>
      obtain ⟨_, nothing, _⟩ := held.exists_rel ((same y).mpr held'.1)
      cases nothing
  | some x =>
    obtain ⟨y, rfl, back⟩ := held'.exists_rel ((same x).mp held.1)
    exact .some ⟨held.2 y ((same y).mpr held'.1), back⟩

end Extremes

end Scalar

/-- What a relation within equality relates is equal, if it is there at all. -/
theorem eq_of_optionRel {α : Type} {rel : α → α → Prop} (equal : ∀ {x y}, rel x y → x = y)
    {x y : Option α} (related : Option.Rel rel x y) : x = y := by
  cases related with
  | none => rfl
  | some both => exact congrArg some (equal both)

end Storyboard
