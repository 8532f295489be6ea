import Storyboard.Asset.Source

/-! # Content digests

A fast digest of 128 bits with a seed, over a sequence of bytes. Short inputs are mixed in one
step chosen by their length; long ones are taken in stripes of 64 bytes by eight running sums,
which are scrambled after every block. All arithmetic is on words of 64 bits, with the product of
two words taken in full where it is folded.
-/

namespace Storyboard

namespace Digest

def keyBytes : ByteArray := ⟨#[
  0xb8, 0xfe, 0x6c, 0x39, 0x23, 0xa4, 0x4b, 0xbe, 0x7c, 0x01, 0x81, 0x2c, 0xf7, 0x21, 0xad, 0x1c,
  0xde, 0xd4, 0x6d, 0xe9, 0x83, 0x90, 0x97, 0xdb, 0x72, 0x40, 0xa4, 0xa4, 0xb7, 0xb3, 0x67, 0x1f,
  0xcb, 0x79, 0xe6, 0x4e, 0xcc, 0xc0, 0xe5, 0x78, 0x82, 0x5a, 0xd0, 0x7d, 0xcc, 0xff, 0x72, 0x21,
  0xb8, 0x08, 0x46, 0x74, 0xf7, 0x43, 0x24, 0x8e, 0xe0, 0x35, 0x90, 0xe6, 0x81, 0x3a, 0x26, 0x4c,
  0x3c, 0x28, 0x52, 0xbb, 0x91, 0xc3, 0x00, 0xcb, 0x88, 0xd0, 0x65, 0x8b, 0x1b, 0x53, 0x2e, 0xa3,
  0x71, 0x64, 0x48, 0x97, 0xa2, 0x0d, 0xf9, 0x4e, 0x38, 0x19, 0xef, 0x46, 0xa9, 0xde, 0xac, 0xd8,
  0xa8, 0xfa, 0x76, 0x3f, 0xe3, 0x9c, 0x34, 0x3f, 0xf9, 0xdc, 0xbb, 0xc7, 0xc7, 0x0b, 0x4f, 0x1d,
  0x8a, 0x51, 0xe0, 0x4b, 0xcd, 0xb4, 0x59, 0x31, 0xc8, 0x9f, 0x7e, 0xc9, 0xd9, 0x78, 0x73, 0x64,
  0xea, 0xc5, 0xac, 0x83, 0x34, 0xd3, 0xeb, 0xc3, 0xc5, 0x81, 0xa0, 0xff, 0xfa, 0x13, 0x63, 0xeb,
  0x17, 0x0d, 0xdd, 0x51, 0xb7, 0xf0, 0xda, 0x49, 0xd3, 0x16, 0x55, 0x26, 0x29, 0xd4, 0x68, 0x9e,
  0x2b, 0x16, 0xbe, 0x58, 0x7d, 0x47, 0xa1, 0xfc, 0x8f, 0xf8, 0xb8, 0xd1, 0x7a, 0xd0, 0x31, 0xce,
  0x45, 0xcb, 0x3a, 0x8f, 0x95, 0x16, 0x04, 0x28, 0xaf, 0xd7, 0xfb, 0xca, 0xbb, 0x4b, 0x40, 0x7e]⟩

def prime32a : UInt64 := 0x9E3779B1
def prime32b : UInt64 := 0x85EBCA77
def prime32c : UInt64 := 0xC2B2AE3D
def prime64a : UInt64 := 0x9E3779B185EBCA87
def prime64b : UInt64 := 0xC2B2AE3D27D4EB4F
def prime64c : UInt64 := 0x165667B19E3779F9
def prime64d : UInt64 := 0x85EBCA77C2B2AE63
def prime64e : UInt64 := 0x27D4EB2F165667C5
/-- A factor of the final mixing of long inputs. -/
def mixer : UInt64 := 0x165667919E3779F9
/-- A factor of the final mixing of short inputs. -/
def shortMixer : UInt64 := 0x9FB21C651E98DF25

/-- The byte at an index; nothing is read past the end. -/
def byteAt (bytes : ByteArray) (i : Nat) : UInt64 := ((bytes.data[i]?).getD 0).toUInt64

/-- Four bytes from an index, the least significant one first. -/
def read32 (bytes : ByteArray) (i : Nat) : UInt64 :=
  byteAt bytes i ||| (byteAt bytes (i + 1) <<< 8) ||| (byteAt bytes (i + 2) <<< 16) |||
    (byteAt bytes (i + 3) <<< 24)

/-- Eight bytes from an index, the least significant one first. -/
def read64 (bytes : ByteArray) (i : Nat) : UInt64 :=
  read32 bytes i ||| (read32 bytes (i + 4) <<< 32)

def key64 (i : Nat) : UInt64 := read64 keyBytes i

def low32 (x : UInt64) : UInt64 := x &&& (0xffffffff : UInt64)

/-- The bytes of a word of 32 bits in the opposite order. -/
def swap32 (x : UInt64) : UInt64 :=
  let low : UInt64 := x &&& 0xff
  let next : UInt64 := x &&& 0xff00
  let third : UInt64 := (x >>> 8) &&& 0xff00
  let high : UInt64 := (x >>> 24) &&& 0xff
  (low <<< 24) ||| (next <<< 8) ||| third ||| high

/-- The bytes of a word in the opposite order. -/
def swap64 (x : UInt64) : UInt64 := (swap32 x <<< 32) ||| swap32 (x >>> 32)

def turn32 (x : UInt64) (n : UInt64) : UInt64 :=
  low32 ((x <<< n) ||| (x >>> (32 - n)))

def product (x y : UInt64) : Wide :=
  let n := x.toNat * y.toNat
  ⟨UInt64.ofNat n, UInt64.ofNat (n >>> 64)⟩

/-- The halves of the full product, combined. -/
def fold (x y : UInt64) : UInt64 :=
  let p := product x y
  p.low ^^^ p.high

/-- The final mixing of long inputs. -/
def finish (x : UInt64) : UInt64 :=
  let x := (x ^^^ (x >>> 37)) * mixer
  x ^^^ (x >>> 32)

/-- The final mixing of the shortest inputs. -/
def finishShort (x : UInt64) : UInt64 :=
  let x := (x ^^^ (x >>> 33)) * prime64b
  let x := (x ^^^ (x >>> 29)) * prime64c
  x ^^^ (x >>> 32)

/-- The digest of no bytes. -/
def ofNone (seed : UInt64) : Wide :=
  ⟨finishShort (seed ^^^ key64 64 ^^^ key64 72), finishShort (seed ^^^ key64 80 ^^^ key64 88)⟩

def ofUpTo3 (seed : UInt64) (bytes : ByteArray) : Wide :=
  let n := bytes.size
  let low := (byteAt bytes 0 <<< 16) ||| (byteAt bytes (n / 2) <<< 24) ||| byteAt bytes (n - 1) |||
    (UInt64.ofNat n <<< 8)
  let high := turn32 (swap32 low) 13
  let keyLow := (read32 keyBytes 0 ^^^ read32 keyBytes 4) + seed
  let keyHigh := (read32 keyBytes 8 ^^^ read32 keyBytes 12) - seed
  ⟨finishShort (low ^^^ keyLow), finishShort (high ^^^ keyHigh)⟩

def ofUpTo8 (seed : UInt64) (bytes : ByteArray) : Wide :=
  let n := bytes.size
  let seed := seed ^^^ (swap32 (low32 seed) <<< 32)
  let input := read32 bytes 0 + (read32 bytes (n - 4) <<< 32)
  let keyed := input ^^^ ((key64 16 ^^^ key64 24) + seed)
  let p := product keyed (prime64a + (UInt64.ofNat n <<< 2))
  let high := p.high + (p.low <<< 1)
  let low := p.low ^^^ (high >>> 3)
  let low := (low ^^^ (low >>> 35)) * shortMixer
  ⟨low ^^^ (low >>> 28), finish high⟩

def ofUpTo16 (seed : UInt64) (bytes : ByteArray) : Wide :=
  let n := bytes.size
  let first := read64 bytes 0
  let last := read64 bytes (n - 8)
  let p := product (first ^^^ last ^^^ ((key64 32 ^^^ key64 40) - seed)) prime64a
  let low := p.low + (UInt64.ofNat (n - 1) <<< 54)
  let last := last ^^^ ((key64 48 ^^^ key64 56) + seed)
  let high := p.high + last + low32 last * (prime32b - 1)
  let low := low ^^^ swap64 high
  let p := product low prime64b
  ⟨finish p.low, finish (p.high + high * prime64b)⟩

def mix16 (seed : UInt64) (bytes : ByteArray) (offset keyAt : Nat) : UInt64 :=
  fold (read64 bytes offset ^^^ (key64 keyAt + seed))
    (read64 bytes (offset + 8) ^^^ (key64 (keyAt + 8) - seed))

def mix32 (seed : UInt64) (bytes : ByteArray) (sums : Wide) (first second keyAt : Nat) : Wide :=
  { low := (sums.low + mix16 seed bytes first keyAt) ^^^
      (read64 bytes second + read64 bytes (second + 8))
    high := (sums.high + mix16 seed bytes second (keyAt + 16)) ^^^
      (read64 bytes first + read64 bytes (first + 8)) }

def ofSums (seed : UInt64) (n : Nat) (sums : Wide) : Wide :=
  { low := finish (sums.low + sums.high)
    high := 0 - finish (sums.low * prime64a + sums.high * prime64d +
      (UInt64.ofNat n - seed) * prime64b) }

/-- The digest of 17 to 128 bytes: pairs of runs from both ends toward the middle. -/
def ofUpTo128 (seed : UInt64) (bytes : ByteArray) : Wide :=
  let n := bytes.size
  let pairs := (n - 1) / 32 + 1
  let sums := (List.range pairs).reverse.foldl
    (fun sums i => mix32 seed bytes sums (16 * i) (n - 16 * (i + 1)) (32 * i))
    ⟨UInt64.ofNat n * prime64a, 0⟩
  ofSums seed n sums

/-- The digest of 129 to 240 bytes: runs in order, with a mixing after the first four pairs. -/
def ofUpTo240 (seed : UInt64) (bytes : ByteArray) : Wide :=
  let n := bytes.size
  let sums := (List.range 4).foldl
    (fun sums i => mix32 seed bytes sums (32 * i) (32 * i + 16) (32 * i))
    ⟨UInt64.ofNat n * prime64a, 0⟩
  let sums : Wide := ⟨finish sums.low, finish sums.high⟩
  let sums := (List.range (n / 32 - 4)).foldl
    (fun sums i => mix32 seed bytes sums (128 + 32 * i) (144 + 32 * i) (3 + 32 * i)) sums
  ofSums seed n (mix32 (0 - seed) bytes sums (n - 16) (n - 32) 103)

def seededKey (seed : UInt64) : Array UInt8 :=
  (List.range 24).foldl
    (fun key i =>
      let word := if i % 2 = 0 then key64 (8 * i) + seed else key64 (8 * i) - seed
      key ++ ((List.range 8).map fun j => (word >>> UInt64.ofNat (8 * j)).toUInt8).toArray)
    #[]

/-- Eight running sums, two to a pair. -/
abbrev Lanes := List UInt64

def addStripe (key : ByteArray) (keyAt : Nat) (bytes : ByteArray) (offset : Nat) (lanes : Lanes) :
    Lanes :=
  lanes.zipIdx.map fun (lane, i) =>
    let data := read64 bytes (offset + 8 * i)
    let partner := read64 bytes (offset + 8 * (i ^^^ 1))
    let keyed := data ^^^ read64 key (keyAt + 8 * i)
    lane + partner + low32 keyed * (keyed >>> 32)

def scramble (key : ByteArray) (lanes : Lanes) : Lanes :=
  lanes.zipIdx.map fun (lane, i) =>
    (lane ^^^ (lane >>> 47) ^^^ read64 key (128 + 8 * i)) * prime32a

def addStripes (key : ByteArray) (bytes : ByteArray) (offset count : Nat) (lanes : Lanes) : Lanes :=
  (List.range count).foldl
    (fun lanes i => addStripe key (8 * i) bytes (offset + 64 * i) lanes) lanes

/-- Folds the sums into a word. -/
def mergeLanes (key : ByteArray) (keyAt : Nat) (start : UInt64) (lanes : Lanes) : UInt64 :=
  let words := lanes.zipIdx.map fun (lane, i) => lane ^^^ read64 key (keyAt + 8 * i)
  let rec pairs : List UInt64 → UInt64
    | x :: y :: rest => fold x y + pairs rest
    | _ => 0
  finish (start + pairs words)

def ofLong (seed : UInt64) (bytes : ByteArray) : Wide :=
  let n := bytes.size
  let key : ByteArray := ⟨seededKey seed⟩
  let lanes : Lanes :=
    [prime32c, prime64a, prime64b, prime64c, prime64d, prime32b, prime64e, prime32a]
  let blocks := (n - 1) / 1024
  let lanes := (List.range blocks).foldl
    (fun lanes i => scramble key (addStripes key bytes (1024 * i) 16 lanes)) lanes
  let lanes := addStripes key bytes (1024 * blocks) ((n - 1 - 1024 * blocks) / 64) lanes
  let lanes := addStripe key 121 bytes (n - 64) lanes
  let size := UInt64.ofNat n
  ⟨mergeLanes key 11 (size * prime64a) lanes, mergeLanes key 117 (~~~(size * prime64b)) lanes⟩

def ofBytes (seed : UInt64) (bytes : ByteArray) : Wide :=
  let n := bytes.size
  if n = 0 then ofNone seed
  else if n ≤ 3 then ofUpTo3 seed bytes
  else if n ≤ 8 then ofUpTo8 seed bytes
  else if n ≤ 16 then ofUpTo16 seed bytes
  else if n ≤ 128 then ofUpTo128 seed bytes
  else if n ≤ 240 then ofUpTo240 seed bytes
  else ofLong seed bytes

end Digest

/-- The digest by which assets are told apart when the program runs. -/
instance fastDigest : SeededDigest := ⟨Digest.ofBytes⟩

end Storyboard
