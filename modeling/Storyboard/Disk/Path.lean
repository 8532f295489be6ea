/-! # File paths

Paths as texts with slashes, as far as the parts of a name go, and the limits that disks put on
them.
-/

namespace Storyboard

namespace FilePath

/-- How many bytes a name can have. -/
def nameLimit : Nat := 255

/-- How many bytes a path can have. -/
def pathLimit : Nat := 4095

/-- Whether a name can be looked up in a directory. -/
def fitsName (name : String) : Bool := name.utf8ByteSize ≤ nameLimit

/-- Whether a path can be looked up: it is not too long, and no NUL ends it early. -/
def fits (path : String) : Bool :=
  path.utf8ByteSize ≤ pathLimit && !path.toList.contains '\x00'

def names (path : String) : List String := (path.toList.splitOn '/').map String.ofList

/-- Drops slashes, and parts that are a single dot, at the end of a path read backward. -/
def trimEnd : List Char → List Char
  | '/' :: rest => if rest.isEmpty then ['/'] else trimEnd rest
  | '.' :: '/' :: rest => if rest.isEmpty then ['/'] else trimEnd rest
  | path => path

/-- The directory that a path lies in; the root and the empty path lie in none. -/
def parent? (path : String) : Option String :=
  match trimEnd path.toList.reverse with
  | [] | ['/'] => none
  | backward =>
    let rest := backward.dropWhile (· ≠ '/')
    some (String.ofList (trimEnd rest).reverse)

/-- A path below a directory; the empty path is the directory one is in. -/
def join (directory path : String) : String :=
  if directory = "" ∨ directory.toList.getLast? = some '/' then directory ++ path
  else directory ++ "/" ++ path

end FilePath

end Storyboard
