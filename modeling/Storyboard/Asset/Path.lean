import Storyboard.Failure

/-! # Asset paths

An asset names its file relative to the asset root, with either slash between the parts. Its
normal form has `/` between parts that are neither empty nor `.`; paths that start at the file
system's root, climb above the asset root or name nothing are refused.
-/

namespace Storyboard

namespace AssetPath

/-- Why a text is no asset path. -/
inductive PathError where
  /-- It starts at the root of the file system. -/
  | absolute
  | empty
  /-- It climbs to a parent directory. -/
  | parent
  /-- It names no file. -/
  | noName
  deriving DecidableEq, Repr

def PathError.message : PathError → String
  | .absolute => "asset paths must be relative"
  | .empty => "asset path must be non-empty"
  | .parent => "asset paths must not contain '..'"
  | .noName => "asset path must contain a file name"

/-- Every backslash turned into a slash. -/
def withSlashes (text : List Char) : List Char :=
  text.map fun c => if c = '\\' then '/' else c

/-- The parts between slashes; there is always a first one. -/
def splitSlashes : List Char → List (List Char)
  | [] => [[]]
  | c :: rest =>
    if c = '/' then [] :: splitSlashes rest
    else
      match splitSlashes rest with
      | part :: parts => (c :: part) :: parts
      | [] => [[c]]

/-- The parts with a slash between each two. -/
def joinSlashes (parts : List (List Char)) : List Char := ['/'].intercalate parts

/-- Parts that change nothing about where a path leads. -/
def isIdle (part : List Char) : Bool := part = [] || part = ['.']

/-- The part that leads to the parent directory. -/
def isParent (part : List Char) : Bool := part = ['.', '.']

/-- The parts of a path that matter. -/
def segments (text : List Char) : List (List Char) :=
  (splitSlashes (withSlashes text)).filter fun part => !isIdle part

/-- The normal form of a path of characters. -/
def normalizeChars (text : List Char) : Except PathError (List Char) :=
  if (withSlashes text).head? = some '/' then .error .absolute
  else if text = [] then .error .empty
  else if (segments text).any isParent then .error .parent
  else if segments text = [] then .error .noName
  else .ok (joinSlashes (segments text))

/-- The normal form of a path. -/
def normalize (text : String) : Except Failure String :=
  match normalizeChars text.toList with
  | .ok path => .ok (String.ofList path)
  | .error e => .error (.validation e.message)

end AssetPath

end Storyboard
