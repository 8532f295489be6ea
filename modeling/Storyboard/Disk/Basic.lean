import Storyboard.Image.Png

/-! # Disks

What the library asks of a place where files are kept, in some monad. Operations say whether they
succeeded; what the reason was is not told.
-/

namespace Storyboard

/-- Bytes are compared one by one. -/
instance decidableEqBytes : DecidableEq ByteArray := ByteArray.decEq

/-- What a file holds. -/
inductive FileContent where
  | bytes (bytes : ByteArray)
  /-- An image, which is kept without loss. -/
  | image (image : Image)
  deriving DecidableEq

def FileContent.toBytes : FileContent → ByteArray
  | .bytes file => file
  | .image picture => picture.png

/-- What comes of reading a file. -/
inductive ReadResult where
  /-- There is nothing that could be opened. -/
  | missing
  /-- There is something, but it is no file. -/
  | unreadable
  | found (bytes : ByteArray)
  deriving DecidableEq

/-- A place where files are kept. -/
structure Disk (m : Type → Type) where
  /-- Whether a file is at a path. -/
  isFile : String → m Bool
  read : String → m ReadResult
  /-- Makes a directory and those that it lies in. -/
  makeDirectories : String → m Bool
  /-- Writes a file into a directory that is there. -/
  write : String → FileContent → m Bool
  /-- Removes a file; a file that is not there counts as removed. -/
  remove : String → m Bool
  /-- Moves what is at a path to another one. -/
  rename : String → String → m Bool

end Storyboard
