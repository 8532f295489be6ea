/-! # Numbers in bytes

Numbers of two and four bytes, the highest byte first, and parts of a run of bytes. What does not
lie inside of the bytes is not there.
-/

namespace Storyboard

namespace BigEndian

def byte? (bytes : ByteArray) (i : Nat) : Option Nat :=
  if h : i < bytes.size then some bytes[i].toNat else none

def word? (bytes : ByteArray) (i : Nat) : Option Nat := do
  return (← byte? bytes i) * UInt8.size + (← byte? bytes (i + 1))

def signedWord? (bytes : ByteArray) (i : Nat) : Option Int := do
  let n : Int := ← word? bytes i
  return if n < 0x8000 then n else n - 0x10000

def long? (bytes : ByteArray) (i : Nat) : Option Nat := do
  return (← word? bytes i) * UInt16.size + (← word? bytes (i + 2))

def part? (bytes : ByteArray) (offset length : Nat) : Option ByteArray :=
  if offset + length ≤ bytes.size then some (bytes.extract offset (offset + length)) else none

def tail? (bytes : ByteArray) (offset : Nat) : Option ByteArray :=
  part? bytes offset (bytes.size - offset)

end BigEndian

end Storyboard
