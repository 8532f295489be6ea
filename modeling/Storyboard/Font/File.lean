import Storyboard.Font.Bytes

/-! # Font files

A font file holds a face, or a collection of faces. A face is a directory of tables, each of them a
part of the file under a name of four letters.
-/

namespace Storyboard

open BigEndian

/-- The number that the four letters of a name spell. -/
def fontTag (name : String) : Nat := name.toList.foldl (fun n c => n * UInt8.size + c.toNat) 0

/-- An entry of a directory. -/
structure FontEntry where
  tag : Nat
  /-- Where in the file the table starts. -/
  offset : Nat
  length : Nat
  deriving DecidableEq, Repr

/-- A face in a file. -/
structure FontFile where
  bytes : ByteArray
  entries : Array FontEntry

namespace FontFile

/-- The first number of a collection. -/
def collectionMark : Nat := fontTag "ttcf"

/-- The first numbers of faces. -/
def faceMarks : List Nat := [0x10000, fontTag "true", fontTag "OTTO"]

def starts (bytes : ByteArray) : List Nat :=
  if long? bytes 0 = some collectionMark then
    match long? bytes 8 with
    | none => []
    | some count =>
      let listed := 12 + 4 * count
      if listed ≤ bytes.size then
        ((List.range count).filterMap fun i => long? bytes (12 + 4 * i)).filter (listed ≤ ·)
      else []
  else [0]

def at? (bytes : ByteArray) (start : Nat) : Option FontFile := do
  let mark ← long? bytes start
  if faceMarks.contains mark then
    let count ← word? bytes (start + 4)
    let entries ← (List.range count).mapM fun i => do
      let entry := start + 12 + 16 * i
      return (⟨← long? bytes entry, ← long? bytes (entry + 8), ← long? bytes (entry + 12)⟩ :
        FontEntry)
    return ⟨bytes, entries.toArray⟩
  else none

def faces (bytes : ByteArray) : List FontFile := (starts bytes).filterMap (at? bytes)

def tableAt? (file : FontFile) (entry : FontEntry) : Option ByteArray :=
  part? file.bytes entry.offset entry.length

/-- The index at which halving ends that looks for a name among so many entries from a place on. -/
def narrow (entries : Array FontEntry) (tag place count : Nat) : Nat :=
  if count ≤ 1 then place
  else
    let middle := place + count / 2
    let place := if (entries[middle]?).any fun e => tag < e.tag then place else middle
    narrow entries tag place (count - count / 2)
termination_by count

/-- The table that halving finds, as in a directory in the order of names. -/
def sortedTable? (file : FontFile) (name : String) : Option ByteArray := do
  let tag := fontTag name
  let entry ← file.entries[narrow file.entries tag 0 file.entries.size]?
  if entry.tag = tag then file.tableAt? entry else none

/-- The table of the last entry with a name. -/
def lastTable? (file : FontFile) (name : String) : Option ByteArray := do
  let entry ← file.entries.toList.reverse.find? fun e => e.tag == fontTag name
  file.tableAt? entry

end FontFile

end Storyboard
