import Mathlib.Tactic.SplitIfs
import Storyboard.Project.Reader
import Storyboard.Project.Writer

/-! # Records that are read back

A record is written as members with names of their own. Reading keeps those that the shape knows, so
each field has the value that was written for it, or none if the member was left out.
-/

namespace Storyboard

theorem keys_memberIf_sublist (present : Bool) (name : String) (value : Json) :
    ((memberIf present name value).map Prod.fst).Sublist [name] := by
  cases present
  · exact List.nil_sublist _
  · exact List.Sublist.refl _

namespace Fields

@[simp] theorem find?_nil (name : String) : find? [] name = none := rfl

@[simp] theorem find?_cons (name other : String) (value : Json) (rest : Fields) :
    find? ((name, value) :: rest) other =
      if other = name then some value else rest.find? other := by
  rw [find?, List.lookup_cons]
  by_cases same : other = name
  · rw [beq_iff_eq.mpr same, if_pos same]
  · rw [beq_eq_false_iff_ne.mpr same, if_neg same]
    rfl

@[simp] theorem find?_append (front back : Fields) (name : String) :
    find? (front ++ back) name = (front.find? name).or (back.find? name) := List.lookup_append

@[simp] theorem find?_memberIf (present : Bool) (name other : String) (value : Json) :
    find? (memberIf present name value) other =
      if other = name ∧ present then some value else none := by
  cases present
  · simp [memberIf, find?]
  · simp [memberIf]

end Fields

namespace RecordShape

/-- Members of distinct names are read as those that the shape knows. -/
theorem ofMembers_named (shape : RecordShape) {members read : Fields}
    (distinct : (members.map Prod.fst).Nodup)
    (fresh : ∀ name ∈ members.map Prod.fst, name ∉ read.map Prod.fst)
    (accepted : shape.strict = true → ∀ name ∈ members.map Prod.fst, name ∈ shape.fields) :
    shape.ofMembers (members.map fun m => (some m.1, m.2)) read =
      some (read.reverse ++ members.filter fun m => shape.fields.contains m.1) := by
  induction members generalizing read with
  | nil => simp [ofMembers]
  | cons m rest ih =>
    rw [List.map_cons, List.nodup_cons] at distinct
    rw [List.map_cons, List.forall_mem_cons] at fresh accepted
    have missing : read.lookup m.1 = none :=
      List.lookup_eq_none_iff.mpr fun entry member => by
        have other : entry.1 ≠ m.1 := fun same =>
          fresh.1 (same ▸ List.mem_map_of_mem member)
        simpa using other.symm
    simp only [List.map_cons, ofMembers, missing, Option.isSome_none, Bool.false_eq_true,
      if_false]
    split_ifs with known strict
    · rw [ih distinct.2 _ fun strict => (accepted strict).2]
      · rw [List.filter_cons, if_pos known, List.reverse_cons, List.append_assoc]
        rfl
      · intro name member
        rw [List.map_cons, List.mem_cons, not_or]
        exact ⟨fun same => distinct.1 (same ▸ member), fresh.2 name member⟩
    · exact absurd (List.contains_iff_mem.mpr (accepted strict).1) known
    · rw [ih distinct.2 fresh.2 fun strict => (accepted strict).2, List.filter_cons,
        if_neg known]

theorem ofMembers_relaxed {shape : RecordShape} (relaxed : shape.strict = false)
    {members : Fields} (distinct : (members.map Prod.fst).Nodup) :
    shape.ofMembers (members.map fun m => (some m.1, m.2)) [] =
      some (members.filter fun m => shape.fields.contains m.1) :=
  ofMembers_named shape distinct (fun _ _ => List.not_mem_nil) fun strict =>
    absurd (relaxed.symm.trans strict) Bool.false_ne_true

/-- A record whose names are fields in order is read as it stands. -/
theorem read_record (shape : RecordShape) {members : Fields} (distinct : shape.fields.Nodup)
    (ordered : (members.map Prod.fst).Sublist shape.fields) :
    shape.read (.record members) = some members := by
  rw [Json.record, read, ofMembers_named shape (ordered.nodup distinct)
    (fun _ _ => List.not_mem_nil) fun _ _ member => ordered.subset member]
  rw [List.reverse_nil, List.nil_append, List.filter_eq_self.mpr fun m member => ?_]
  exact List.contains_iff_mem.mpr (ordered.subset (List.mem_map_of_mem member))

end RecordShape

/-- A list is read back if each of its members is. -/
theorem Json.list?_array {α β : Type} {read : Json → Option β} {write : α → Json} {f : α → β}
    {list : List α} (same : ∀ a ∈ list, read (write a) = some (f a)) :
    Json.list? read (.array (list.map write)) = some (list.map f) := by
  rw [list?]
  induction list with
  | nil => rfl
  | cons a rest ih =>
    rw [List.forall_mem_cons] at same
    rw [List.map_cons, List.mapM_cons, same.1, ih same.2]
    rfl

theorem Json.list?_array_self {α : Type} {read : Json → Option α} {write : α → Json}
    {list : List α} (same : ∀ a ∈ list, read (write a) = some a) :
    Json.list? read (.array (list.map write)) = some list := by
  rw [list?_array (f := id) same, List.map_id]

/-- The type of an element is found in front of its fields. -/
theorem splitType?_record (type : String) {members : Fields}
    (other : "type" ∉ members.map Prod.fst) :
    ProjectReader.splitType? ((("type", .text type) :: members).map fun m => (some m.1, m.2)) =
      some (type, members.map fun m => (some m.1, m.2)) := by
  have unnamed : ∀ m ∈ members.map fun m => (some m.1, m.2), (m.1 == some "type") = false := by
    rintro _ mapped
    obtain ⟨m, member, rfl⟩ := List.mem_map.mp mapped
    have different : m.1 ≠ "type" := fun same => other (same ▸ List.mem_map_of_mem member)
    simpa using different
  have named : (members.map fun m => (some m.1, m.2)).filter (fun m => m.1 == some "type") = [] :=
    List.filter_eq_nil_iff.mpr fun m member => by simp [unnamed m member]
  have beside : (members.map fun m => (some m.1, m.2)).filter
      (not ∘ fun m : Option String × Json => m.1 == some "type") =
        members.map fun m => (some m.1, m.2) :=
    List.filter_eq_self.mpr fun m member => by simp [unnamed m member]
  rw [ProjectReader.splitType?, List.partition_eq_filter_filter, List.map_cons, List.filter_cons,
    List.filter_cons, named, beside]
  rfl

end Storyboard
