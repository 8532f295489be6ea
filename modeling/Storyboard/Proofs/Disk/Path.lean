import Mathlib.Data.List.Basic
import Mathlib.Tactic.SplitIfs
import Storyboard.Disk.Path

/-! # Names along a path

A path is the list of the names between its slashes. Looked up from a place, each name leads on,
stays or climbs; a path below a directory leads on from where the directory does.
-/

namespace Storyboard

namespace FilePath

/-- The names of a path can be read off their join. -/
theorem names_intercalate {parts : List String} (apart : ∀ part ∈ parts, '/' ∉ part.toList)
    (nonempty : parts ≠ []) : names ("/".intercalate parts) = parts := by
  have split : (['/'].intercalate (parts.map String.toList)).splitOn '/' =
      parts.map String.toList := by
    refine List.splitOn_intercalate _ ?_ (by simpa using nonempty)
    simpa using apart
  rw [names, String.toList_intercalate]
  change ((['/'].intercalate (parts.map String.toList)).splitOn '/').map String.ofList = parts
  rw [split]
  simp

/-- What stands in a name stands in the path, and is no slash. -/
theorem mem_of_mem_names {path name : String} (member : name ∈ names path) {c : Char}
    (inside : c ∈ name.toList) : c ≠ '/' ∧ c ∈ path.toList := by
  obtain ⟨part, among, rfl⟩ := List.mem_map.mp member
  rw [String.toList_ofList] at inside
  clear member
  generalize path.toList = text at among ⊢
  induction text generalizing part with
  | nil =>
    rw [List.splitOn_nil, List.mem_singleton] at among
    exact absurd (among ▸ inside) List.not_mem_nil
  | cons d rest ih =>
    rw [List.splitOn_cons_eq_if_modifyHead] at among
    split_ifs at among with slash
    · rcases List.mem_cons.mp among with rfl | later
      · exact absurd inside List.not_mem_nil
      · exact (ih part inside later).imp_right (List.mem_cons_of_mem _)
    · cases split : rest.splitOn '/' with
      | nil => exact absurd split (List.splitOn_ne_nil _ _)
      | cons first more =>
        rw [split] at among ih
        rcases List.mem_cons.mp among with rfl | later
        · rcases List.mem_cons.mp inside with rfl | inside
          · exact ⟨fun same => slash (beq_iff_eq.mpr same), List.mem_cons_self⟩
          · exact (ih first inside List.mem_cons_self).imp_right (List.mem_cons_of_mem _)
        · exact (ih part inside (List.mem_cons_of_mem _ later)).imp_right (List.mem_cons_of_mem _)

theorem names_append_slash (first second : String) :
    names (first ++ "/" ++ second) = names first ++ names second := by
  have text : (first ++ "/" ++ second).toList = first.toList ++ '/' :: second.toList := by simp
  rw [names, text, List.splitOn_append_cons_self, List.map_append]
  rfl

/-- Before a slash at the start stands nothing. -/
theorem nothing_mem_names {path : String} (absolute : path.toList.head? = some '/') :
    "" ∈ names path := by
  obtain ⟨rest, text⟩ := List.head?_eq_some_iff.mp absolute
  rw [names, text, List.splitOn_cons_eq_if_modifyHead, if_pos (by decide)]
  exact List.mem_cons_self

/-- Where names lead from a place, by themselves. -/
def lead (place names : List String) : List String :=
  names.foldl (fun place name =>
    if name = "" ∨ name = "." then place
    else if name = ".." then place.dropLast
    else place ++ [name]) place

theorem lead_append (place first second : List String) :
    lead place (first ++ second) = lead (lead place first) second := List.foldl_append

/-- Names that neither stay nor climb lead down one by one. -/
theorem lead_forward {forward : List String}
    (plain : ∀ name ∈ forward, name ≠ "" ∧ name ≠ "." ∧ name ≠ "..") (place : List String) :
    lead place forward = place ++ forward := by
  induction forward generalizing place with
  | nil => exact (List.append_nil place).symm
  | cons name rest ih =>
    obtain ⟨⟨named, moves, down⟩, later⟩ := List.forall_mem_cons.mp plain
    have step : lead place (name :: rest) = lead (place ++ [name]) rest := by
      simp [lead, named, moves, down]
    rw [step, ih later, List.append_assoc, List.singleton_append]

/-- A path below a directory leads on from where the directory does. -/
theorem lead_join (place : List String) (directory path : String) :
    lead place (names (join directory path)) =
      lead (lead place (names directory)) (names path) := by
  unfold join
  split_ifs with ended
  · rcases ended with rfl | slash
    · have nothing : lead place (names "") = place := by simp [lead, names]
      rw [String.empty_append, nothing]
    · obtain ⟨start, split⟩ := List.getLast?_eq_some_iff.mp slash
      -- The directory ends in a part that leads nowhere.
      have whole : directory = String.ofList start ++ "/" ++ "" := by
        apply String.toList_injective
        simp [split]
      have idle : names directory = names (String.ofList start) ++ [""] := by
        rw [whole, names_append_slash]
        rfl
      have longer : directory ++ path = String.ofList start ++ "/" ++ path := by
        rw [whole, String.append_empty]
      rw [longer, names_append_slash, idle, lead_append, lead_append]
      rfl
  · rw [names_append_slash, lead_append]

end FilePath

end Storyboard
