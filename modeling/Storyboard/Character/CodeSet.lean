/-! # Sets of character codes

A set of codes as the rising list of codes at which membership changes: up to the first one no code
belongs to it, up to the second one every code does, and so on.
-/

namespace Storyboard

/-- A set of character codes. -/
structure CodeSet where
  /-- The codes at which membership changes. -/
  changes : List Nat
  deriving DecidableEq, Repr

namespace CodeSet

def contains (set : CodeSet) (code : Nat) : Bool :=
  (set.changes.takeWhile fun change => change ≤ code).length % 2 == 1

end CodeSet

end Storyboard
