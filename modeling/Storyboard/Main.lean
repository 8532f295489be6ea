import Storyboard.CommandLine.Response
import Storyboard.Disk.Path

/-! # The program

Answers the command line on the real disk.
-/

namespace Storyboard

def succeeds (action : IO Unit) : IO Bool := do
  try
    action
    return true
  catch _ => return false

/-- Carries out an action with paths that can be looked up, and says whether that succeeded. -/
def succeedsAt (paths : List String) (action : IO Unit) : IO Bool :=
  if paths.all FilePath.fits then succeeds action else return false

def readFromDisk (path : String) : IO ReadResult := do
  if !FilePath.fits path then return .missing
  let opened ← try
      let handle ← IO.FS.Handle.mk path .read
      pure (some handle)
    catch _ => pure none
  match opened with
  | none => return .missing
  | some handle =>
    try
      let bytes ← handle.readBinToEnd
      return .found bytes
    catch _ => return .unreadable

def realDisk : Disk IO where
  isFile path := return (← readFromDisk path) matches .found _
  read path := readFromDisk path
  makeDirectories path :=
    if path.isEmpty then return true else succeedsAt [path] (IO.FS.createDirAll path)
  write path content := succeedsAt [path] (IO.FS.writeBinFile path content.toBytes)
  remove path := succeeds do
    if (← readFromDisk path) ≠ .missing then IO.FS.removeFile path
  rename source target := succeedsAt [source, target] (IO.FS.rename source target)

end Storyboard

open Storyboard in
/-- Does what the command line asks for and prints what there is to tell. -/
def main (arguments : List String) : IO UInt32 := do
  let response ← respond realDisk arguments
  IO.print response.output
  IO.eprint response.errors
  return UInt32.ofNat response.code
