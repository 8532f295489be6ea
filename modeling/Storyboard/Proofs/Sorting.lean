import Mathlib.Data.List.Perm.Basic
import Mathlib.Tactic.SplitIfs

/-! # Stable sorting

What sorting by a total preorder gives is ordered, and keeps the order of what compares equal. It
commutes with leaving members out, and does not depend on the order of members that the preorder
tells apart.
-/

namespace Storyboard

theorem pairwise_zipIdx {α : Type} (list : List α) (start : Nat) :
    (list.zipIdx start).Pairwise fun x y => x.2 < y.2 := by
  rw [← List.pairwise_map (f := Prod.snd) (R := (· < ·)), List.zipIdx_map_snd]
  exact List.pairwise_lt_range'

/-- Sorting keeps the order of what compares equal. -/
theorem pairwise_mergeSort_stable {α : Type} (le : α → α → Bool)
    (trans : ∀ a b c, le a b → le b c → le a c) (total : ∀ a b, le a b || le b a)
    {before : α → α → Prop} {list : List α} (declared : list.Pairwise before) :
    (list.mergeSort le).Pairwise fun a b => le a b = true ∧ (le b a = true → before a b) := by
  rw [← List.mergeSort_zipIdx, List.pairwise_map]
  have sorted := List.pairwise_mergeSort (List.zipIdxLE_trans trans) (List.zipIdxLE_total total)
    list.zipIdx
  have perm := List.mergeSort_perm list.zipIdx (List.zipIdxLE le)
  have distinct : (list.zipIdx.mergeSort (List.zipIdxLE le)).Pairwise fun x y => x.2 ≠ y.2 :=
    (perm.pairwise_iff fun different => different.symm).mpr
      ((pairwise_zipIdx list 0).imp fun less => Nat.ne_of_lt less)
  refine (sorted.and distinct).imp_of_mem ?_
  rintro ⟨a, i⟩ ⟨b, j⟩ first second ⟨ordered, different⟩
  have here := List.mk_mem_zipIdx_iff_getElem?.mp (perm.mem_iff.mp first)
  have there := List.mk_mem_zipIdx_iff_getElem?.mp (perm.mem_iff.mp second)
  simp only [List.zipIdxLE] at ordered
  split_ifs at ordered with less more
  · refine ⟨less, fun _ => ?_⟩
    obtain ⟨inside, rfl⟩ := List.getElem?_eq_some_iff.mp here
    obtain ⟨inside', rfl⟩ := List.getElem?_eq_some_iff.mp there
    have earlier : i < j := by
      have low : i ≤ j := of_decide_eq_true ordered
      have apart : i ≠ j := different
      omega
    exact List.pairwise_iff_getElem.mp declared i j inside inside' earlier
  · exact ⟨less, fun equal => absurd equal more⟩

section Total

variable {α : Type} {le : α → α → Bool} (trans : ∀ a b c, le a b → le b c → le a c)
  (total : ∀ a b, le a b || le b a)
include trans total

/-- Where members that compare equal are equal, only which there are and how often matters. -/
theorem mergeSort_eq_iff_perm {list list' : List α}
    (antisymm : ∀ a ∈ list, ∀ b ∈ list, le a b = true → le b a = true → a = b) :
    list.mergeSort le = list'.mergeSort le ↔ list.Perm list' := by
  constructor
  · intro same
    exact (List.mergeSort_perm list le).symm.trans (same ▸ List.mergeSort_perm list' le)
  · intro perm
    refine List.Perm.eq_of_pairwise (fun a b here there first second => ?_)
      (List.pairwise_mergeSort trans total list) (List.pairwise_mergeSort trans total list')
      ((List.mergeSort_perm list le).trans (perm.trans (List.mergeSort_perm list' le).symm))
    exact antisymm a (List.mem_mergeSort.mp here) b
      (perm.mem_iff.mpr (List.mem_mergeSort.mp there)) first second

/-- Sorting puts the first element between those that have to be before it and all others. -/
theorem mergeSort_cons_eq (a : α) (list : List α) :
    (a :: list).mergeSort le =
      (list.mergeSort le).filter (fun b => !le a b) ++ a :: (list.mergeSort le).filter (le a) := by
  obtain ⟨front, back, whole, rest, less⟩ := List.mergeSort_cons trans total a list
  have sorted := List.pairwise_mergeSort trans total (a :: list)
  rw [whole] at sorted
  have more : ∀ b ∈ back, le a b = true :=
    (List.pairwise_cons.mp (List.pairwise_append.mp sorted).2.1).1
  rw [whole, rest, List.filter_append, List.filter_append,
    List.filter_eq_self.mpr less, List.filter_eq_self.mpr more,
    List.filter_eq_nil_iff.mpr fun b member => by simp [more b member],
    List.filter_eq_nil_iff.mpr fun b member => by simpa using less b member,
    List.append_nil, List.nil_append]

/-- A stable sort keeps some members in the order that it gives them alone. -/
theorem filter_mergeSort (keep : α → Bool) (list : List α) :
    (list.mergeSort le).filter keep = (list.filter keep).mergeSort le := by
  induction list with
  | nil => simp
  | cons a rest ih =>
    cases kept : keep a with
    | true =>
      rw [List.filter_cons_of_pos kept, mergeSort_cons_eq trans total,
        mergeSort_cons_eq trans total, ← ih, List.filter_append, List.filter_cons_of_pos kept,
        List.filter_comm keep, List.filter_comm keep]
    | false =>
      obtain ⟨front, back, whole, others, -⟩ := List.mergeSort_cons trans total a rest
      have out : ¬ keep a = true := Bool.eq_false_iff.mp kept
      rw [List.filter_cons_of_neg out, ← ih, whole, others, List.filter_append, List.filter_append,
        List.filter_cons_of_neg out]

end Total

end Storyboard
