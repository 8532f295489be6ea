import Storyboard.Group

/-! # The order of groups and elements

Groups follow a ranking by name, with those that it does not list in front. Inside a group,
elements go layer by layer and, inside a layer, by their windows of time; elements of one window
keep the order of their declaration.
-/

namespace Storyboard

variable {R : Type}

namespace Group

/-- The place of a name in a ranking; names that are not listed come first. -/
def rank (order : List String) (name : String) : Int :=
  match order.findIdx? (fun listed => listed == name) with
  | some place => place
  | none => -1

/-- Groups by rank; groups of one rank keep their order. -/
def ranked (order : Option (List String)) (groups : List (Group R)) : List (Group R) :=
  match order with
  | none => groups
  | some order => groups.mergeSort fun g h => decide (rank order g.name ≤ rank order h.name)

end Group

/-- An element and where it was declared in its group. -/
structure Stop (R : Type) where
  /-- Its place in the declaration. -/
  index : Nat
  window : R × R
  element : Element R
  deriving DecidableEq, Repr

namespace Stop

variable [Scalar R]

/-- Every element of a group with its place and window. -/
def declared (elements : List (Element R)) : List (Stop R) :=
  elements.zipIdx.map fun (element, index) => ⟨index, element.window, element⟩

/-- The elements of a layer by window. -/
def onLayer (stops : List (Stop R)) (layer : Layer) : List (Stop R) :=
  (stops.filter fun stop => stop.element.layer = layer).mergeSort fun s t =>
    Scalar.windowLE s.window t.window

/-- Every element of a group in the order in which elements are visited. -/
def visiting (elements : List (Element R)) : List (Stop R) :=
  Layer.all.flatMap (onLayer (declared elements))

end Stop

end Storyboard
