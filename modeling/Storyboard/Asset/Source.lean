import Storyboard.Asset.Path
import Storyboard.Hex

/-! # Assets by content

An asset is a generated image for a path. What it looks like is its source; the identity of that
content is a key, which becomes a sequence of bytes and then a digest. Two requests with the same
digest share one image.

The digest itself is a parameter: nothing that is proved about assets depends on which one it is.
-/

namespace Storyboard

namespace Digest

/-- The low and the high half of 128 bits. -/
structure Wide where
  low : UInt64
  high : UInt64
  deriving DecidableEq, Repr

/-- Sixteen lower-case hexadecimal digits. -/
def hex64 (x : UInt64) : String :=
  String.ofList ((List.range 16).reverse.map fun i => hexDigit (x.toNat >>> (4 * i)))

/-- Thirty-two lower-case hexadecimal digits, the high half first. -/
def Wide.hex (w : Wide) : String := hex64 w.high ++ hex64 w.low

end Digest

/-- A digest of 128 bits for a seed and a sequence of bytes. -/
class SeededDigest where
  ofBytes : UInt64 → ByteArray → Digest.Wide

/-- A colour with an opacity, by bytes. -/
structure Rgba where
  r : UInt8
  g : UInt8
  b : UInt8
  a : UInt8
  deriving DecidableEq, Repr, Inhabited

namespace Rgba

def white : Rgba := ⟨255, 255, 255, 255⟩

def channels (c : Rgba) : List UInt8 := [c.r, c.g, c.b, c.a]

/-- The channels as numbers in brackets. -/
def listing (c : Rgba) : String :=
  "[" ++ ", ".intercalate (c.channels.map fun n => toString n.toNat) ++ "]"

end Rgba

/-- How an image is made. -/
inductive AssetSource where
  | solid (width height : Nat) (rgba : Rgba)
  /-- A line of text in a font from the asset root. -/
  | lettering (text font : String) (sizePx : Float32) (rgba : Rgba)
  deriving DecidableEq

/-- The identity of a content: a kind, a name and parameters by name. -/
structure AssetKey where
  kind : UInt8
  identifier : String
  /-- The parameters, sorted. -/
  params : List (String × String)
  deriving DecidableEq, Repr

namespace AssetKey

def textBytes (s : String) : List UInt8 := s.toUTF8.toList

/-- The order of bytes, position by position, a beginning before what goes on. -/
def bytesLE : List UInt8 → List UInt8 → Bool
  | [], _ => true
  | _ :: _, [] => false
  | x :: xs, y :: ys => x < y || (x == y && bytesLE xs ys)

/-- The order of parameters: by name, then by value. -/
def paramLE (p q : String × String) : Bool :=
  if p.1 = q.1 then bytesLE (textBytes p.2) (textBytes q.2)
  else bytesLE (textBytes p.1) (textBytes q.1)

/-- Parameters of different names stand in the order of the names. -/
theorem paramLE_of_ne {name name' : String} (different : name ≠ name') (value value' : String) :
    paramLE (name, value) (name', value') = bytesLE (textBytes name) (textBytes name') :=
  if_neg different

/-- A key with its parameters sorted. -/
def new (kind : UInt8) (identifier : String) (params : List (String × String)) : AssetKey :=
  ⟨kind, identifier, params.mergeSort paramLE⟩

def terminated (s : String) : List UInt8 := textBytes s ++ [0]

/-- The bytes that stand for a key: the kind, the name, then each parameter and its value. -/
def bytes (key : AssetKey) : List UInt8 :=
  key.kind :: terminated key.identifier ++
    key.params.flatMap fun p => terminated p.1 ++ terminated p.2

def digestSeed : UInt64 := 0x5b0a7d1ec3f29a41

/-- The digest of a key, as hexadecimal digits. -/
def contentHash [SeededDigest] (key : AssetKey) : String :=
  (SeededDigest.ofBytes digestSeed (ByteArray.mk key.bytes.toArray)).hex

end AssetKey

namespace AssetSource

def fontName (font : String) : String := String.ofList (AssetPath.withSlashes font.toList)

/-- The identity of the content. -/
def key : AssetSource → AssetKey
  | .solid width height rgba =>
    AssetKey.new 83 "solid"
      [("width", toString width), ("height", toString height), ("rgba", rgba.listing)]
  | .lettering text font sizePx rgba =>
    AssetKey.new 84 text
      [("font", fontName font), ("size_px", toString sizePx.toBits.toNat),
        ("rgba", rgba.listing)]

/-- The parameters of a rectangle stand in the order of their names. -/
theorem key_solid_eq (width height : Nat) (rgba : Rgba) :
    (solid width height rgba).key = ⟨83, "solid",
      [("height", toString height), ("rgba", rgba.listing), ("width", toString width)]⟩ := by
  have first (w h : String) : AssetKey.paramLE ("width", w) ("height", h) = false :=
    (AssetKey.paramLE_of_ne (by decide) w h).trans (by decide +kernel)
  have second (h c : String) : AssetKey.paramLE ("height", h) ("rgba", c) = true :=
    (AssetKey.paramLE_of_ne (by decide) h c).trans (by decide +kernel)
  have third (w c : String) : AssetKey.paramLE ("width", w) ("rgba", c) = false :=
    (AssetKey.paramLE_of_ne (by decide) w c).trans (by decide +kernel)
  simp [key, AssetKey.new, List.mergeSort, first, second, third]

end AssetSource

/-- An image for a path below the asset root. -/
structure Asset where
  /-- The path in normal form. -/
  path : String
  source : AssetSource
  contentHash : String
  deriving DecidableEq

namespace Asset

def new [SeededDigest] (path : String) (source : AssetSource) : Except Failure Asset := do
  let path ← AssetPath.normalize path
  return ⟨path, source, source.key.contentHash⟩

end Asset

end Storyboard
