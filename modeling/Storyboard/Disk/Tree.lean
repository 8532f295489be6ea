import Storyboard.Disk.Basic
import Storyboard.Disk.Path

/-! # File trees

A disk as a value: files and directories by the parts of their paths. The directory at the top is
always there.
-/

namespace Storyboard

/-- What is at a path. -/
inductive FileNode where
  | directory
  | file (content : FileContent)
  deriving DecidableEq

/-- Files and directories below a directory. -/
structure FileTree where
  /-- The nodes by the parts of their paths. -/
  nodes : List (List String × FileNode) := []
  deriving DecidableEq

namespace FileTree

/-- What is at the parts of a path. -/
def node? (tree : FileTree) (parts : List String) : Option FileNode :=
  if parts = [] then some .directory else tree.nodes.lookup parts

def isDirectory (tree : FileTree) (parts : List String) : Bool :=
  tree.node? parts = some .directory

def content? (tree : FileTree) (parts : List String) : Option FileContent :=
  match tree.node? parts with
  | some (.file content) => some content
  | _ => none

/-- The tree without what is at a path. -/
def erase (tree : FileTree) (parts : List String) : FileTree :=
  ⟨tree.nodes.filter fun node => node.1 ≠ parts⟩

/-- The tree with something at a path. -/
def set (tree : FileTree) (parts : List String) (node : FileNode) : FileTree :=
  ⟨(tree.erase parts).nodes ++ [(parts, node)]⟩

def hasFile (tree : FileTree) (parts : List String) : Bool := (tree.content? parts).isSome

/-- Whether a part of a path stays where it is. -/
def isHere (part : String) : Bool := part == "" || part == "."

/-- The parts that a path leads to from a place. Only a file, or a part that is too long, ends a
path before its last part, and `..` leads out of a directory that is there. -/
def follow (tree : FileTree) : List String → List String → Option (List String)
  | place, [] => some place
  | place, part :: rest =>
    if tree.hasFile place then none
    else if isHere part then tree.follow place rest
    else if part = ".." then
      if place ≠ [] ∧ tree.isDirectory place then tree.follow place.dropLast rest else none
    else if FilePath.fitsName part then tree.follow (place ++ [part]) rest
    else none

/-- The names between the slashes of a path; a path from the top of all disks leads nowhere, and so
does one that cannot be looked up. -/
def names? (path : String) : Option (List String) :=
  if path.toList.head? = some '/' || !FilePath.fits path then none
  else some (FilePath.names path)

/-- The parts of a path below the top. -/
def resolve (tree : FileTree) (path : String) : Option (List String) :=
  (names? path).bind (tree.follow [])

/-- Makes the directories along a path from a place. -/
def makeAlong (tree : FileTree) : List String → List String → FileTree × Bool
  | _, [] => (tree, true)
  | place, name :: rest =>
    if isHere name then tree.makeAlong place rest
    else if name = ".." then
      if place = [] then (tree, false) else tree.makeAlong place.dropLast rest
    else if !FilePath.fitsName name then (tree, false)
    else
      let here := place ++ [name]
      match tree.node? here with
      | some .directory => tree.makeAlong here rest
      | some (.file _) => (tree, false)
      | none => (tree.set here .directory).makeAlong here rest

/-- Whether one path lies below another one. -/
def isBelow (parts above : List String) : Bool :=
  above.isPrefixOf parts && parts.length != above.length

/-- Whether nothing lies below a path. -/
def isEmptyAt (tree : FileTree) (parts : List String) : Bool :=
  !tree.nodes.any fun node => isBelow node.1 parts

def moveBelow (tree : FileTree) (source target : List String) : FileTree :=
  ⟨(tree.erase target).nodes.map fun (parts, node) =>
    if source.isPrefixOf parts then (target ++ parts.drop source.length, node) else (parts, node)⟩

/-- Moves a file or directory, if the target can take it. -/
def moved? (tree : FileTree) (source target : List String) : Option FileTree :=
  if source = [] ∨ target = [] ∨ !tree.isDirectory target.dropLast then none
  else
    match tree.node? source, tree.node? target with
    | none, _ => none
    | some (.file _), some .directory => none
    | some (.file content), _ =>
      if source = target then some tree else some ((tree.erase source).set target (.file content))
    | some .directory, some (.file _) => none
    | some .directory, some .directory =>
      if source = target then some tree
      else if isBelow target source || !tree.isEmptyAt target then none
      else some (tree.moveBelow source target)
    | some .directory, none =>
      if isBelow target source then none else some (tree.moveBelow source target)

def isFile (tree : FileTree) (path : String) : Bool :=
  ((tree.resolve path).bind tree.content?).isSome

def read (tree : FileTree) (path : String) : ReadResult :=
  match (tree.resolve path).bind tree.node? with
  | some (.file content) => .found content.toBytes
  | some .directory => .unreadable
  | none => .missing

/-- Makes a directory and those that it lies in. -/
def makeDirectories (tree : FileTree) (path : String) : FileTree × Bool :=
  match names? path with
  | some names => tree.makeAlong [] names
  | none => (tree, false)

def namesFile (path : String) : Bool :=
  match (FilePath.names path).getLast? with
  | some name => !isHere name && name != ".."
  | none => false

def write (tree : FileTree) (path : String) (content : FileContent) : FileTree × Bool :=
  match tree.resolve path with
  | some parts =>
    if namesFile path ∧ tree.isDirectory parts.dropLast ∧ !tree.isDirectory parts then
      (tree.set parts (.file content), true)
    else (tree, false)
  | none => (tree, false)

def remove (tree : FileTree) (path : String) : FileTree × Bool :=
  match tree.resolve path with
  | some parts =>
    match tree.node? parts with
    | some (.file _) => (tree.erase parts, true)
    | some .directory => (tree, false)
    | none => (tree, true)
  | none => (tree, true)

/-- Moves what is at a path to another one. -/
def rename (tree : FileTree) (source target : String) : FileTree × Bool :=
  match tree.resolve source, tree.resolve target with
  | some source, some target =>
    match tree.moved? source target with
    | some next => (next, true)
    | none => (tree, false)
  | _, _ => (tree, false)

def change {σ : Type} (get : σ → FileTree) (put : FileTree → σ → σ)
    (f : FileTree → FileTree × Bool) : StateM σ Bool :=
  modifyGet fun s =>
    let (tree, done) := f (get s)
    (done, put tree s)

/-- A file tree in a state as a disk. -/
def disk {σ : Type} (get : σ → FileTree) (put : FileTree → σ → σ) : Disk (StateM σ) where
  isFile path := return (get (← getThe σ)).isFile path
  read path := return (get (← getThe σ)).read path
  makeDirectories path := change get put fun tree => tree.makeDirectories path
  write path content := change get put fun tree => tree.write path content
  remove path := change get put fun tree => tree.remove path
  rename source target := change get put fun tree => tree.rename source target

end FileTree

end Storyboard
