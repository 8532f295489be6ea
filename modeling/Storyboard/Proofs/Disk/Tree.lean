import Mathlib.Data.List.Basic
import Storyboard.Disk.Tree

/-! # Looking up and making places in a file tree

A path of plain names leads to the place that it spells unless a file is on the way. Making the
directories along it adds those that are missing and changes nothing else.
-/

namespace Storyboard

namespace FileTree

variable {tree : FileTree} {place names : List String}

/-- Dropping a key leaves all other keys as they are. -/
theorem lookup_filter_ne {α β : Type} [BEq α] [LawfulBEq α] [DecidableEq α] (a b : α)
    (list : List (α × β)) :
    (list.filter fun x => x.1 ≠ a).lookup b = if b = a then none else list.lookup b := by
  induction list with
  | nil => simp
  | cons head rest ih =>
    obtain ⟨key, value⟩ := head
    by_cases gone : key = a
    · rw [List.filter_cons_of_neg (by simpa using gone), ih]
      split
      · rfl
      · next other =>
        have apart : b ≠ key := fun same => other (same.trans gone)
        simp [List.lookup_cons, beq_false_of_ne apart]
    · rw [List.filter_cons_of_pos (by simpa using gone), List.lookup_cons, List.lookup_cons]
      by_cases here : b = key
      · subst here
        simp [gone]
      · simpa [beq_false_of_ne here] using ih

theorem node?_of_ne_nil {parts : List String} (below : parts ≠ []) :
    tree.node? parts = tree.nodes.lookup parts := if_neg below

theorem node?_erase_self {parts : List String} (below : parts ≠ []) :
    (tree.erase parts).node? parts = none := by
  rw [node?_of_ne_nil below]
  exact (lookup_filter_ne parts parts tree.nodes).trans (if_pos rfl)

theorem node?_erase_of_ne {parts other : List String} (apart : other ≠ parts) :
    (tree.erase parts).node? other = tree.node? other := by
  by_cases top : other = []
  · rw [top]
    rfl
  · rw [node?_of_ne_nil top, node?_of_ne_nil top]
    exact (lookup_filter_ne parts other tree.nodes).trans (if_neg apart)

theorem node?_set_self {parts : List String} (node : FileNode) (below : parts ≠ []) :
    (tree.set parts node).node? parts = some node := by
  have erased : (tree.erase parts).node? parts = none := node?_erase_self below
  rw [node?_of_ne_nil below] at erased ⊢
  rw [set, List.lookup_append, erased]
  simp

theorem node?_set_of_ne {parts other : List String} (node : FileNode) (apart : other ≠ parts) :
    (tree.set parts node).node? other = tree.node? other := by
  by_cases top : other = []
  · rw [top]
    rfl
  · have erased : (tree.erase parts).node? other = tree.node? other := node?_erase_of_ne apart
    rw [node?_of_ne_nil top] at erased ⊢
    rw [set, List.lookup_append, erased]
    simp [List.lookup_cons, beq_false_of_ne apart]

theorem content?_eq_some {parts : List String} {content : FileContent} :
    tree.content? parts = some content ↔ tree.node? parts = some (.file content) := by
  unfold content?
  split
  · next found => simp [found]
  · next other => simpa using fun found => other content found

theorem hasFile_eq_false {parts : List String} :
    tree.hasFile parts = false ↔ ∀ content, tree.node? parts ≠ some (.file content) := by
  simp [hasFile, Option.isSome_eq_false_iff, Option.isNone_iff_eq_none,
    Option.eq_none_iff_forall_ne_some, content?_eq_some]

/-! ## Paths of plain names -/

/-- Names that stand for themselves. -/
def Plain (names : List String) : Prop :=
  ∀ name ∈ names, isHere name = false ∧ name ≠ ".." ∧ FilePath.fitsName name = true

instance (names : List String) : Decidable (Plain names) :=
  inferInstanceAs (Decidable (∀ name ∈ names, _))

theorem Plain.tail {name : String} {rest : List String} (plain : Plain (name :: rest)) :
    Plain rest := fun other member => plain other (List.mem_cons_of_mem _ member)

/-- A path of plain names leads to where it says, unless a file is on the way. -/
theorem follow_plain (plain : Plain names) (place : List String)
    (way : ∀ above, above <+: names → above ≠ names → tree.hasFile (place ++ above) = false) :
    tree.follow place names = some (place ++ names) := by
  induction names generalizing place with
  | nil => simp [follow]
  | cons name rest ih =>
    obtain ⟨moves, forward, fits⟩ := plain name List.mem_cons_self
    have here := way [] List.nil_prefix (List.cons_ne_nil _ _).symm
    rw [List.append_nil] at here
    have onward := ih plain.tail (place ++ [name]) fun above part before => by
      rw [List.append_assoc]
      exact way (name :: above) (List.cons_prefix_cons.mpr ⟨rfl, part⟩) (by simpa using before)
    simpa [follow, here, moves, forward, fits] using onward

/-- One tree has all that another one has, and more directories along a path. -/
structure Grown (before after : FileTree) (along : List String) : Prop where
  kept : ∀ parts node, before.node? parts = some node → after.node? parts = some node
  fresh : ∀ parts, before.node? parts = none →
    after.node? parts = none ∨ after.node? parts = some .directory ∧ parts <+: along

theorem Grown.refl (tree : FileTree) (along : List String) : Grown tree tree along :=
  ⟨fun _ _ found => found, fun _ missing => .inl missing⟩

theorem Grown.trans {first second third : FileTree} {along : List String}
    (left : Grown first second along) (right : Grown second third along) :
    Grown first third along := by
  constructor
  · exact fun parts node found => right.kept parts node (left.kept parts node found)
  · intro parts missing
    rcases left.fresh parts missing with still | ⟨made, part⟩
    · exact right.fresh parts still
    · exact .inr ⟨right.kept parts _ made, part⟩

theorem Grown.content? {before after : FileTree} {along : List String}
    (grown : Grown before after along) (parts : List String) :
    after.content? parts = before.content? parts := by
  cases found : before.node? parts with
  | some node => rw [FileTree.content?, FileTree.content?, found, grown.kept parts node found]
  | none =>
    rcases grown.fresh parts found with still | ⟨made, _⟩
    · rw [FileTree.content?, FileTree.content?, found, still]
    · rw [FileTree.content?, FileTree.content?, found, made]

theorem Grown.hasFile {before after : FileTree} {along : List String}
    (grown : Grown before after along) (parts : List String) :
    after.hasFile parts = before.hasFile parts := by
  rw [FileTree.hasFile, FileTree.hasFile, grown.content?]

/-- A new directory on the way is all that the tree gains. -/
theorem grown_set {here along : List String} (missing : tree.node? here = none)
    (part : here <+: along) : Grown tree (tree.set here .directory) along := by
  constructor
  · intro parts node found
    have apart : parts ≠ here := by
      rintro rfl
      exact nomatch missing.symm.trans found
    rw [node?_set_of_ne _ apart, found]
  · intro parts gone
    by_cases same : parts = here
    · subst same
      have below : parts ≠ [] := by
        rintro rfl
        cases gone
      exact .inr ⟨node?_set_self _ below, part⟩
    · exact .inl ((node?_set_of_ne _ same).trans gone)

/-- Making the directories along a path of plain names succeeds, unless a file is there. -/
theorem makeAlong_plain (plain : Plain names) (place : List String)
    (start : tree.node? place = some .directory)
    (way : ∀ above, above <+: names → tree.hasFile (place ++ above) = false) :
    (tree.makeAlong place names).2 = true ∧
      Grown tree (tree.makeAlong place names).1 (place ++ names) ∧
      (tree.makeAlong place names).1.node? (place ++ names) = some .directory := by
  induction names generalizing tree place with
  | nil => exact ⟨rfl, .refl _ _, by simpa [makeAlong] using start⟩
  | cons name rest ih =>
    obtain ⟨moves, forward, fits⟩ := plain name List.mem_cons_self
    have free := hasFile_eq_false.mp (way [name] (by simp))
    have split : place ++ name :: rest = (place ++ [name]) ++ rest := by simp
    have onward : ∀ above, above <+: rest → tree.hasFile ((place ++ [name]) ++ above) = false := by
      intro above part
      rw [List.append_assoc]
      exact way (name :: above) (List.cons_prefix_cons.mpr ⟨rfl, part⟩)
    simp only [makeAlong, moves, forward, fits, Bool.false_eq_true, Bool.not_true, if_false]
    rw [split]
    cases found : tree.node? (place ++ [name]) with
    | some node =>
      cases node with
      | directory => exact ih plain.tail _ found onward
      | file content => exact absurd found (free content)
    | none =>
      have grown := grown_set found (List.prefix_append (place ++ [name]) rest)
      have made : (tree.set (place ++ [name]) .directory).node? (place ++ [name]) =
          some .directory := node?_set_self _ (by simp)
      have free' : ∀ above, above <+: rest →
          (tree.set (place ++ [name]) .directory).hasFile (place ++ [name] ++ above) = false :=
        fun above part => by rw [grown.hasFile, onward above part]
      obtain ⟨done, grown', there⟩ := ih plain.tail _ made free'
      exact ⟨done, grown.trans grown', there⟩

/-- Parts that change nothing may be left out. -/
theorem makeAlong_filter (tree : FileTree) (place names : List String) :
    tree.makeAlong place names = tree.makeAlong place (names.filter fun name => !isHere name) := by
  induction names generalizing tree place with
  | nil => rfl
  | cons name rest ih =>
    cases idle : isHere name with
    | true => simp [makeAlong, idle, ih]
    | false =>
      simp only [makeAlong, idle, Bool.not_false, List.filter_cons_of_pos, Bool.false_eq_true,
        if_false, ih]

/-! ## Moving files -/

theorem moved?_missing {source target : List String} (missing : tree.node? source = none) :
    tree.moved? source target = none := by
  unfold moved?
  split
  · rfl
  · rw [missing]

theorem moved?_file {source target : List String} (below : source ≠ []) (below' : target ≠ [])
    (ready : tree.isDirectory target.dropLast = true) {content : FileContent}
    (found : tree.node? source = some (.file content))
    (clear : tree.node? target ≠ some .directory) :
    tree.moved? source target = if source = target then some tree
      else some ((tree.erase source).set target (.file content)) := by
  simp only [moved?, below, below', ready, Bool.not_true, Bool.false_eq_true, or_self, if_false,
    found]

end FileTree

end Storyboard
