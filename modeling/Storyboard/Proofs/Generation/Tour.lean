import Mathlib.Data.List.Perm.Basic
import Mathlib.Data.Prod.Lex
import Storyboard.Generation.Visit
import Storyboard.Proofs.Number.Double
import Storyboard.Proofs.Sorting

/-! # The tour of all elements

Elements are visited group by group, layer by layer and by their windows, and elements that agree in
all of that keep the order of their declaration. This is a strict order on places in the merged
groups, so that it leaves one sequence only.
-/

namespace Storyboard

/-- An element at its place in the merged groups. -/
structure Visit (R : Type) where
  key : ElementKey
  element : Element R

namespace Visit

/-- Every element of every group, as declared. -/
def declared {R : Type} (groups : List (Group R)) : List (Visit R) :=
  groups.zipIdx.flatMap fun (group, place) =>
    group.elements.zipIdx.map fun (element, index) => ⟨⟨place, index⟩, element⟩

/-- What visits are ordered by: the group, the layer, the start, the end and the declaration, where
numbers compare by their total order. -/
def rank (visit : Visit Double) : ℕ ×ₗ ℕ ×ₗ ℤ ×ₗ ℤ ×ₗ ℕ :=
  toLex (visit.key.group, toLex (visit.element.layer.index, toLex (visit.element.startTime.rank,
    toLex (visit.element.endTime.rank, visit.key.element))))

/-- One visit comes before another one. -/
def Precedes (v w : Visit Double) : Prop := v.rank < w.rank

/-- One visit comes before another by group, layer, start, end and place, in this order. -/
theorem precedes_iff {v w : Visit Double} : v.Precedes w ↔
    v.key.group < w.key.group ∨ v.key.group = w.key.group ∧
      (v.element.layer.index < w.element.layer.index ∨
        v.element.layer.index = w.element.layer.index ∧
          (v.element.startTime.rank < w.element.startTime.rank ∨
            v.element.startTime.rank = w.element.startTime.rank ∧
              (v.element.endTime.rank < w.element.endTime.rank ∨
                v.element.endTime.rank = w.element.endTime.rank ∧
                  v.key.element < w.key.element))) := by
  simp only [Precedes, rank, Prod.Lex.toLex_lt_toLex]

def ofStop {R : Type} (place : Nat) (stop : Stop R) : Visit R := ⟨⟨place, stop.index⟩, stop.element⟩

/-- The visits of a group in the order of the walk. -/
def tourOf {R : Type} [Scalar R] (place : Nat) (group : Group R) : List (Visit R) :=
  (Stop.visiting group.elements).map (ofStop place)

/-- All visits in the order of the walk. -/
def tour {R : Type} [Scalar R] (groups : List (Group R)) : List (Visit R) :=
  groups.zipIdx.flatMap fun (group, place) => tourOf place group

end Visit

/-! ## Windows -/

theorem windowLE_iff {x y : Double × Double} : Scalar.windowLE x y = true ↔
    x.1.rank < y.1.rank ∨ x.1.rank = y.1.rank ∧ x.2.rank ≤ y.2.rank := by
  simp only [Scalar.windowLE, Scalar.totalLE, Bool.and_eq_true, Bool.or_eq_true, Bool.not_eq_true',
    decide_eq_true_eq, decide_eq_false_iff_not]
  omega

/-! ## One group -/

namespace Stop

variable {elements : List (Element Double)}

theorem pairwise_declared (elements : List (Element Double)) :
    (declared elements).Pairwise fun s t => s.index < t.index := by
  rw [declared, List.pairwise_map]
  exact pairwise_zipIdx elements 0

theorem window_of_mem_declared {stop : Stop Double} (member : stop ∈ declared elements) :
    stop.window = stop.element.window := by
  obtain ⟨x, _, rfl⟩ := List.mem_map.mp member
  rfl

section
variable {R : Type} [Scalar R]

theorem mem_onLayer {stops : List (Stop R)} {layer : Layer} {stop : Stop R} :
    stop ∈ onLayer stops layer ↔ stop ∈ stops ∧ stop.element.layer = layer := by
  simp [onLayer]

theorem mem_visiting {elements : List (Element R)} {stop : Stop R} :
    stop ∈ visiting elements ↔ stop ∈ declared elements := by
  simp [visiting, mem_onLayer, Layer.mem_all]

theorem element_mem_of_mem_visiting {elements : List (Element R)} {stop : Stop R}
    (member : stop ∈ visiting elements) : stop.element ∈ elements := by
  obtain ⟨⟨e, index⟩, found, rfl⟩ := List.mem_map.mp (mem_visiting.mp member)
  exact List.fst_mem_of_mem_zipIdx found

end

/-- On a layer, stops come by window and then as declared. -/
theorem pairwise_onLayer (elements : List (Element Double)) (layer : Layer) (place : Nat) :
    (onLayer (declared elements) layer).Pairwise fun s t =>
      (Visit.ofStop place s).Precedes (Visit.ofStop place t) := by
  have sorted := pairwise_mergeSort_stable
    (fun s t : Stop Double => Scalar.windowLE s.window t.window)
    (fun s t u => Scalar.windowLE_trans s.window t.window u.window)
    (fun s t => Scalar.windowLE_total s.window t.window)
    ((pairwise_declared elements).filter fun stop => stop.element.layer = layer)
  refine List.Pairwise.imp_of_mem ?_ sorted
  intro s t first second ordered
  obtain ⟨first, layerFirst⟩ := mem_onLayer.mp first
  obtain ⟨second, layerSecond⟩ := mem_onLayer.mp second
  obtain ⟨less, tied⟩ := ordered
  simp only [windowLE_iff, window_of_mem_declared first, window_of_mem_declared second,
    Element.window] at less tied
  have layers : s.element.layer.index = t.element.layer.index := by rw [layerFirst, layerSecond]
  refine Visit.precedes_iff.mpr (.inr ⟨rfl, .inr ⟨layers, ?_⟩⟩)
  simp only [Visit.ofStop]
  omega

/-- In a group, stops come layer by layer. -/
theorem pairwise_visiting (elements : List (Element Double)) (place : Nat) :
    (visiting elements).Pairwise fun s t =>
      (Visit.ofStop place s).Precedes (Visit.ofStop place t) := by
  refine List.pairwise_flatMap.mpr ⟨fun layer _ => pairwise_onLayer elements layer place, ?_⟩
  have layers : Layer.all.Pairwise fun l k => l.index < k.index := by decide
  refine layers.imp fun {l k} below s first t second => ?_
  obtain ⟨_, rfl⟩ := mem_onLayer.mp first
  obtain ⟨_, rfl⟩ := mem_onLayer.mp second
  exact Visit.precedes_iff.mpr (.inr ⟨rfl, .inl below⟩)

/-- A walk over a group visits every element once. -/
theorem perm_visiting (elements : List (Element Double)) :
    (visiting elements).Perm (declared elements) := by
  have visited : (visiting elements).Nodup := by
    refine (pairwise_visiting elements 0).imp fun before same => ?_
    subst same
    exact lt_irrefl _ before
  have named : (declared elements).Nodup := by
    refine (pairwise_declared elements).imp fun less same => ?_
    subst same
    exact Nat.lt_irrefl _ less
  exact (List.perm_ext_iff_of_nodup visited named).mpr fun stop => mem_visiting

end Stop

/-! ## All groups -/

namespace Visit

variable (groups : List (Group Double))

theorem group_of_mem_tourOf {R : Type} [Scalar R] {place : Nat} {group : Group R} {visit : Visit R}
    (member : visit ∈ tourOf place group) : visit.key.group = place := by
  obtain ⟨stop, _, rfl⟩ := List.mem_map.mp member
  rfl

/-- The tour is in order. -/
theorem pairwise_tour : (tour groups).Pairwise Precedes := by
  refine List.pairwise_flatMap.mpr ⟨fun x _ => ?_, ?_⟩
  · exact List.pairwise_map.mpr (Stop.pairwise_visiting x.1.elements x.2)
  · refine (pairwise_zipIdx groups 0).imp fun {x y} less v first w second => ?_
    refine precedes_iff.mpr (.inl ?_)
    rwa [group_of_mem_tourOf first, group_of_mem_tourOf second]

/-- The tour comes to every element of every group once. -/
theorem perm_tour : (tour groups).Perm (declared groups) := by
  refine List.Perm.flatMap_left _ fun x _ => ?_
  refine ((Stop.perm_visiting x.1.elements).map (ofStop x.2)).trans (.of_eq ?_)
  rw [Stop.declared, List.map_map]
  rfl

/-- A walk visits every element of every group once. -/
theorem map_element_tour_perm :
    ((tour groups).map element).Perm (groups.flatMap Group.elements) := by
  refine ((perm_tour groups).map element).trans (.of_eq ?_)
  have each (place : Nat) (group : Group Double) :
      (group.elements.zipIdx.map fun (element, index) =>
        (⟨⟨place, index⟩, element⟩ : Visit Double)).map element = group.elements := by
    simp [Function.comp_def]
  rw [declared, List.map_flatMap]
  simp only [each]
  have whole := List.flatMap_map Prod.fst Group.elements groups.zipIdx
  rw [List.zipIdx_map_fst] at whole
  exact whole.symm

/-- There is no other order in which the visits could come. -/
theorem eq_tour {visits : List (Visit Double)} (whole : visits.Perm (declared groups))
    (ordered : visits.Pairwise Precedes) : visits = tour groups := by
  refine List.Perm.eq_of_pairwise ?_ ordered (pairwise_tour groups)
    (whole.trans (perm_tour groups).symm)
  intro v w _ _ before after
  exact absurd after (lt_asymm before)

/-- No two elements have the same key. -/
theorem nodup_keys_declared : ((declared groups).map key).Nodup := by
  rw [declared, List.map_flatMap]
  refine List.pairwise_flatMap.mpr ⟨fun x _ => ?_, ?_⟩
  · rw [List.map_map, List.pairwise_map]
    refine (pairwise_zipIdx x.1.elements 0).imp fun less same => ?_
    exact Nat.ne_of_lt less (congrArg ElementKey.element same)
  · refine (pairwise_zipIdx groups 0).imp fun {x y} less k first l second same => ?_
    rw [List.map_map] at first second
    obtain ⟨_, _, rfl⟩ := List.mem_map.mp first
    obtain ⟨_, _, rfl⟩ := List.mem_map.mp second
    exact Nat.ne_of_lt less (congrArg ElementKey.group same)

theorem nodup_keys_tour : ((tour groups).map key).Nodup :=
  ((perm_tour groups).map key).nodup_iff.mpr (nodup_keys_declared groups)

end Visit

end Storyboard
