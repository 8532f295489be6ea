import Storyboard.Element

/-! # Groups

A group is a named list of elements with a target and a visibility. Lists of groups are looked up
by name; a name that is not there yet is added at the end.
-/

namespace Storyboard

/-- Named elements. -/
structure Group (R : Type) where
  /-- The name, by which groups are merged. -/
  name : String
  /-- The export that the group belongs to; without one it belongs to every export. -/
  target : Option String := none
  visible : Bool := true
  /-- The elements in the order in which they were declared. -/
  elements : List (Element R) := []
  deriving DecidableEq, Repr

namespace Group

variable {R : Type}

def extend (g : Group R) (elements : List (Element R)) : Group R :=
  { g with elements := g.elements ++ elements }

/-- Changes the first group of a name, which is added at the end if it is not there. -/
def update (name : String) (f : Group R → Group R) : List (Group R) → List (Group R)
  | [] => [f { name }]
  | g :: rest => if g.name = name then f g :: rest else g :: update name f rest

/-- Merges a group into the first one of its name, whose target and visibility stay. -/
def merge : List (Group R) → Group R → List (Group R)
  | [], incoming => [incoming]
  | g :: rest, incoming =>
    if g.name = incoming.name then g.extend incoming.elements :: rest
    else g :: merge rest incoming

def mergeAll (merged incoming : List (Group R)) : List (Group R) := incoming.foldl merge merged

/-- Changes the sprite of every sprite and animation. -/
def mapSprites (f : Sprite R → Sprite R) (g : Group R) : Group R :=
  { g with elements := g.elements.map (Element.mapSprite f) }

def names (groups : List (Group R)) : List String := groups.map Group.name

/-- Changing a group by its name brings in at most that name, at the end. -/
theorem names_update (name : String) (f : Group R → Group R) (groups : List (Group R))
    (keeps : ∀ g, (f g).name = g.name) :
    names (update name f groups) =
      if name ∈ names groups then names groups else names groups ++ [name] := by
  induction groups with
  | nil => simp [update, names, keeps]
  | cons g rest ih =>
    simp only [names] at ih
    by_cases h : g.name = name
    · simp [update, names, h, keeps]
    · have h' : ¬ name = g.name := fun e => h e.symm
      by_cases m : name ∈ rest.map Group.name <;> simp_all [update, names]

/-- Merging a group brings in at most its name, at the end. -/
theorem names_merge (groups : List (Group R)) (incoming : Group R) :
    names (merge groups incoming) =
      if incoming.name ∈ names groups then names groups
      else names groups ++ [incoming.name] := by
  induction groups with
  | nil => simp [merge, names]
  | cons g rest ih =>
    simp only [names] at ih
    by_cases h : g.name = incoming.name
    · simp [merge, names, h, extend]
    · have h' : ¬ incoming.name = g.name := fun e => h e.symm
      by_cases m : incoming.name ∈ rest.map Group.name <;> simp_all [merge, names]

end Group

end Storyboard
