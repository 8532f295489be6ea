import Storyboard.Json.Value

/-! # What a text holds of a value

A text has no numbers beyond all bounds and no halves of characters: in their places it has the
empty value and the empty string. A value without such parts is held exactly, and here such values
are counted with a bound on how deeply they are nested.
-/

namespace Storyboard

/-- The value is a number within all bounds. -/
def BinaryValue.isFinite : BinaryValue → Bool
  | finite _ => true
  | infinite _ | nan => false

namespace JsonNumber

/-- The number is within all bounds. -/
def isFinite : JsonNumber → Bool
  | integer _ => true
  | double x => x.isFinite
  | single x => (singleValue x).isFinite
  | tooLarge => false

end JsonNumber

namespace Json

/-- What the text of a value holds. -/
def written : Json → Json
  | .null => .null
  | .bool b => .bool b
  | .number n => if n.isFinite then .number n else .null
  | .string s => .text (s.getD "")
  | .array items => .array (items.attach.map fun ⟨item, _⟩ => item.written)
  | .object members =>
    .object (members.attach.map fun ⟨m, _⟩ => (some (m.1.getD ""), m.2.written))
termination_by j => sizeOf j
decreasing_by
  · rename_i member
    have := List.sizeOf_lt_of_mem member
    simp only [Json.array.sizeOf_spec]
    omega
  · rename_i member
    have := List.sizeOf_lt_of_mem member
    obtain ⟨key, value⟩ := m
    simp only [Json.object.sizeOf_spec, Prod.mk.sizeOf_spec] at this ⊢
    omega

theorem written_array (items : List Json) :
    (array items).written = .array (items.map written) := by
  simp [written]

theorem written_object (members : List (Option String × Json)) :
    (object members).written =
      .object (members.map fun m => (some (m.1.getD ""), m.2.written)) := by
  rw [written]
  refine congrArg object ?_
  exact List.attach_map_val (f := fun m : Option String × Json =>
    (some (m.1.getD ""), m.2.written))

theorem isSound_array (items : List Json) : (array items).isSound = items.all isSound := by
  simp [isSound]

theorem isSound_object (members : List (Option String × Json)) :
    (object members).isSound = members.all fun m => m.1.isSome && m.2.isSound := by
  rw [isSound]
  conv => rhs; rw [← List.attach_map_subtype_val members, List.all_map]
  rfl

theorem depth_array (items : List Json) :
    (array items).depth = (items.map depth).foldl max 0 + 1 := by
  simp [depth]

theorem depth_object (members : List (Option String × Json)) :
    (object members).depth = (members.map fun m => m.2.depth).foldl max 0 + 1 := by
  rw [depth]
  exact congrArg (fun depths => depths.foldl max 0 + 1)
    (List.attach_map_val (f := fun m : Option String × Json => m.2.depth))

/-- A value that its text holds exactly, with arrays and objects nested at most so deeply. -/
inductive Exact : Nat → Json → Prop
  | bool (levels : Nat) (b : Bool) : Exact levels (.bool b)
  | number (levels : Nat) (n : JsonNumber) (finite : n.isFinite = true) : Exact levels (.number n)
  | text (levels : Nat) (s : String) : Exact levels (.text s)
  | array {levels : Nat} {items : List Json} (parts : ∀ item ∈ items, Exact levels item) :
    Exact (levels + 1) (.array items)
  | record {levels : Nat} {members : List (String × Json)}
    (parts : ∀ m ∈ members, Exact levels m.2) : Exact (levels + 1) (.record members)

theorem foldl_max_le {sizes : List Nat} {bound : Nat} (within : ∀ n ∈ sizes, n ≤ bound) :
    sizes.foldl max 0 ≤ bound := by
  rw [List.foldl_max]
  cases greatest : sizes.max? with
  | none => simp
  | some n => simpa using (List.max?_le_iff greatest).mpr within

namespace Exact

/-- The text of an exact value holds the value itself. -/
theorem written_eq {levels : Nat} {j : Json} (exact : Exact levels j) : j.written = j := by
  induction exact with
  | bool levels b => rw [written]
  | number levels n finite => rw [written, if_pos finite]
  | text levels s => rw [Json.text, written]; rfl
  | @array levels items parts ih =>
    rw [written_array, List.map_congr_left ih, List.map_id']
  | @record levels members parts ih =>
    rw [Json.record, written_object, List.map_map]
    exact congrArg Json.object (List.map_congr_left fun m member => by
      simp only [Function.comp_apply, ih m member, Option.getD_some])

/-- An exact value has no halves of characters. -/
theorem isSound {levels : Nat} {j : Json} (exact : Exact levels j) : j.isSound = true := by
  induction exact with
  | bool levels b => rw [Json.isSound]
  | number levels n finite =>
    rw [Json.isSound]
    cases n <;> simp_all [JsonNumber.isFinite]
  | text levels s => rw [Json.text, Json.isSound]; rfl
  | @array levels items parts ih =>
    rw [isSound_array, List.all_eq_true]
    exact ih
  | @record levels members parts ih =>
    rw [Json.record, isSound_object, List.all_map, List.all_eq_true]
    intro m member
    simpa using ih m member

/-- An exact value is nested no deeper than its bound says. -/
theorem depth_le {levels : Nat} {j : Json} (exact : Exact levels j) : j.depth ≤ levels := by
  induction exact with
  | bool levels b => simp [depth]
  | number levels n finite => simp [depth]
  | text levels s => simp [depth, Json.text]
  | @array levels items parts ih =>
    rw [depth_array]
    exact Nat.succ_le_succ (foldl_max_le (List.forall_mem_map.mpr ih))
  | @record levels members parts ih =>
    rw [Json.record, depth_object, List.map_map]
    exact Nat.succ_le_succ (foldl_max_le (List.forall_mem_map.mpr ih))

end Exact

end Json

end Storyboard
