import Storyboard.Asset.Source

/-! # Images

A rectangle of pixels in rows from the top. Cropping keeps the least rectangle that holds every
pixel that is not transparent; an image without such a pixel becomes a single transparent one.
-/

namespace Storyboard

/-- The pixel that shows nothing. -/
def Rgba.clear : Rgba := ⟨0, 0, 0, 0⟩

/-- Pixels in rows. -/
structure Image where
  /-- Pixels in a row. -/
  width : Nat
  height : Nat
  /-- The rows, one after the other. -/
  pixels : Array Rgba
  /-- There are as many pixels as the rows need. -/
  size_eq : pixels.size = width * height
  deriving DecidableEq

namespace Image

/-- An image with the same pixel everywhere. -/
def solid (width height : Nat) (rgba : Rgba) : Image :=
  ⟨width, height, Array.replicate (width * height) rgba, by simp⟩

/-- The image with every pixel changed in the same way. -/
def map (f : Rgba → Rgba) (image : Image) : Image :=
  ⟨image.width, image.height, image.pixels.map f, by simp [image.size_eq]⟩

/-- The image whose pixels are given by column and row. -/
def generate (width height : Nat) (pixel : Nat → Nat → Rgba) : Image :=
  ⟨width, height, Array.ofFn fun i : Fin (width * height) => pixel (i % width) (i / width),
    by simp⟩

/-- The pixel of a column and a row. -/
def pixel? (image : Image) (x y : Nat) : Option Rgba :=
  if x < image.width then image.pixels[y * image.width + x]? else none

/-- Whether there is a pixel that can be seen. -/
def shows (image : Image) (x y : Nat) : Bool := (image.pixel? x y).any fun p => p.a != 0

def bytes (image : Image) : List UInt8 := image.pixels.toList.flatMap Rgba.channels

/-- Columns and rows from the least to the greatest. -/
structure Bounds where
  left : Nat
  top : Nat
  right : Nat
  bottom : Nat
  deriving DecidableEq, Repr

namespace Bounds

def single (x y : Nat) : Bounds := ⟨x, y, x, y⟩

/-- The least bounds that also hold a pixel. -/
def add (b : Bounds) (x y : Nat) : Bounds :=
  ⟨min b.left x, min b.top y, max b.right x, max b.bottom y⟩

/-- The bounds that hold what was there and a pixel. -/
def extend (b : Option Bounds) (x y : Nat) : Option Bounds :=
  match b with
  | none => some (single x y)
  | some b => some (b.add x y)

end Bounds

/-- The columns and rows of an image, row by row. -/
def places (image : Image) : List (Nat × Nat) :=
  (List.range image.height).flatMap fun y => (List.range image.width).map fun x => (x, y)

/-- The least bounds that hold every pixel that can be seen. -/
def visibleBounds (image : Image) : Option Bounds :=
  image.places.foldl (fun b (x, y) => if image.shows x y then Bounds.extend b x y else b) none

/-- The part of an image inside of bounds. -/
def part (image : Image) (b : Bounds) : Image :=
  generate (b.right - b.left + 1) (b.bottom - b.top + 1) fun x y =>
    (image.pixel? (x + b.left) (y + b.top)).getD Rgba.clear

/-- The image without what surrounds the pixels that can be seen. If there are none, as in an image
without any pixels, a single clear pixel is left. -/
def crop (image : Image) : Image :=
  match image.visibleBounds with
  | some b => image.part b
  | none => solid 1 1 Rgba.clear

theorem length_bytes (image : Image) : image.bytes.length = image.width * image.height * 4 := by
  have h : ∀ ps : List Rgba, (ps.flatMap Rgba.channels).length = ps.length * 4 := by
    intro ps
    induction ps with
    | nil => rfl
    | cons p rest ih => simp [Rgba.channels, ih]; omega
  rw [bytes, h, Array.length_toList, image.size_eq]

end Image

end Storyboard
