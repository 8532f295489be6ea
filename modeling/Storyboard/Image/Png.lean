import Storyboard.Image.Basic

/-! # Image files

The lossless file of an image: a header, the rows with one byte in front of each that says that
the row is kept as it is, and an end. Every part carries a checksum. The rows are stored in blocks
without compression.
-/

namespace Storyboard

namespace ImageFile

/-- A word of four bytes, the highest one first. -/
def word (n : UInt32) : List UInt8 :=
  [(n >>> 24).toUInt8, (n >>> 16).toUInt8, (n >>> 8).toUInt8, n.toUInt8]

/-- A word of two bytes, the lowest one first. -/
def shortWord (n : Nat) : List UInt8 := [n.toUInt8, (n / 256).toUInt8]

def cyclicStep (c : UInt32) : UInt32 :=
  if c &&& 1 = 1 then (c >>> 1) ^^^ 0xedb88320 else c >>> 1

def cyclicByte (c : UInt32) (b : UInt8) : UInt32 :=
  (List.range 8).foldl (fun c _ => cyclicStep c) (c ^^^ b.toUInt32)

def cyclicSum (bytes : List UInt8) : UInt32 :=
  bytes.foldl cyclicByte 0xffffffff ^^^ 0xffffffff

def runningSums (bytes : List UInt8) : Nat × Nat :=
  bytes.foldl (fun (a, b) byte =>
    let a := (a + byte.toNat) % 65521
    (a, (b + a) % 65521)) (1, 0)

def runningSum (bytes : List UInt8) : UInt32 :=
  let (a, b) := runningSums bytes
  UInt32.ofNat (b * 65536 + a)

/-- A part of the file: its length, its name, its data and the checksum of name and data. -/
def chunk (name : String) (data : List UInt8) : List UInt8 :=
  let named := name.toUTF8.toList ++ data
  word (UInt32.ofNat data.length) ++ named ++ word (cyclicSum named)

def blockLimit : Nat := 65535

/-- A stored block; the last one is marked. -/
def block (last : Bool) (data : List UInt8) : List UInt8 :=
  (if last then 1 else 0) :: shortWord data.length ++
    shortWord (blockLimit - data.length) ++ data

/-- Bytes in stored blocks, with `fuel` at least the number of blocks but one. -/
def blocks : Nat → List UInt8 → List UInt8
  | 0, data => block true data
  | fuel + 1, data =>
    if data.length ≤ blockLimit then block true data
    else block false (data.take blockLimit) ++ blocks fuel (data.drop blockLimit)

/-- Bytes as a compressed stream, which here is not shorter. -/
def stream (data : List UInt8) : List UInt8 :=
  [0x78, 0x01] ++ blocks (data.length / blockLimit) data ++ word (runningSum data)

end ImageFile

namespace Image

open ImageFile

/-- The rows, each after the byte of rows that are kept as they are. -/
def scanlines (image : Image) : List UInt8 :=
  (List.range image.height).flatMap fun y =>
    0 :: (List.range image.width).flatMap fun x =>
      ((image.pixel? x y).getD Rgba.clear).channels

/-- The width and height, and pixels of four channels with eight bits each. -/
def fileHeader (image : Image) : List UInt8 :=
  word (UInt32.ofNat image.width) ++ word (UInt32.ofNat image.height) ++ [8, 6, 0, 0, 0]

def png (image : Image) : ByteArray :=
  let signature := [0x89, 0x50, 0x4e, 0x47, 0x0d, 0x0a, 0x1a, 0x0a]
  let parts := signature ++ chunk "IHDR" image.fileHeader ++
    chunk "IDAT" (stream image.scanlines) ++ chunk "IEND" []
  ByteArray.mk parts.toArray

end Image

end Storyboard
