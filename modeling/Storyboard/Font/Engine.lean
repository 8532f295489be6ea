import Storyboard.Asset.Lettering
import Storyboard.Font.Basic
import Storyboard.Font.Line

/-! # A text engine of boxes

Stands in for an engine that fills outlines. Of the outline of a glyph this one fills the box, to
the nearest quarters of pixels; a pixel that boxes cover in part is painted less opaque. It knows no
documents but those of lettering, of which it sets the first paragraph.

It lets builds run from end to end. Results about assets hold for every engine.
-/

namespace Storyboard

namespace BoxEngine

/-! ## Documents -/

/-- What a document of lettering says. -/
structure Line where
  family : String
  text : String
  size : Rat
  /-- Where the line starts. -/
  start : Rat
  baseline : Rat
  rgba : Rgba

/-- What stands between quotes, each with what stands before it. -/
def quoted : List String → List (String × String)
  | before :: value :: rest => (before, value) :: quoted rest
  | _ => []

def value? (document name : String) : Option String :=
  ((quoted (document.splitOn "\"")).find? fun (before, _) =>
    before.endsWith (" " ++ name ++ "=")).map Prod.snd

/-- The number of single precision that decimal digits stand for. -/
def decimal? (text : String) : Option Rat := do
  let (digits, places) ← match text.splitOn "." with
    | [whole] => some (whole, 0)
    | [whole, rest] => some (whole ++ rest, rest.length)
    | _ => none
  match singleValue (Float.ofScientific (← digits.toNat?) true places).toFloat32 with
  | .finite number => some number.toRat
  | _ => none

def number (document name : String) : Rat := ((value? document name).bind decimal?).getD 0

/-- What a text stood for before it was written. -/
def unescape (text : String) : String :=
  ((((text.replace "&lt;" "<").replace "&gt;" ">").replace "&quot;" "\"").replace "&apos;"
    "\x27").replace "&amp;" "&"

def color? (document : String) : Option Rgba := do
  let fill ← value? document "fill"
  let digits := String.ofList (fill.toList.filter fun c => c.isDigit || c == ',')
  let opacity := (255 * number document "fill-opacity" + 1 / 2).floor.toNat
  match (digits.splitOn ",").filterMap String.toNat? with
  | [r, g, b] => some ⟨r.toUInt8, g.toUInt8, b.toUInt8, opacity.toUInt8⟩
  | _ => none

def body (document : String) : String :=
  let last := ((document.splitOn "\"").getLast?).getD ""
  String.ofList ((last.toList.drop 1).takeWhile fun c => c != '<')

/-- Whether a character may stand in a document. -/
def isPrintable (c : Char) : Bool :=
  if c.toNat < 0x20 then c == '\t' || c == '\n' || c == '\r'
  else c.toNat != 0xfffe && c.toNat != 0xffff

/-- What a document says, unless a character may not stand there. -/
def line? (document : String) : Option Line := do
  if !document.toList.all isPrintable then none
  else
    return {
      family := unescape (← value? document "font-family")
      text := unescape (body document)
      size := number document "font-size"
      start := number document "x"
      baseline := number document "y"
      rgba := ← color? document }

/-! ## Boxes on the canvas -/

/-- Drops blanks that follow a blank. -/
def collapse : List Char → List Char
  | ' ' :: ' ' :: rest => collapse (' ' :: rest)
  | c :: rest => c :: collapse rest
  | [] => []

/-- The characters that are set: white space becomes single blanks and none at the ends. -/
def setting (text : String) : List Char :=
  let blanks := text.toList.map fun c => if c = '\t' ∨ c = '\n' ∨ c = '\r' then ' ' else c
  let trimmed := (blanks.dropWhile (· = ' ')).reverse.dropWhile (· = ' ')
  collapse trimmed.reverse

def endsParagraph (c : Char) : Bool := c == '\u0085' || c == '\u2029'

/-- A box on the canvas in quarters of pixels; the right and lower ends are not part of it. -/
structure Patch where
  left : Int
  top : Int
  right : Int
  bottom : Int
  deriving DecidableEq, Repr

namespace Patch

/-- Whether a place in quarters of pixels lies in a patch. -/
def covers (p : Patch) (x y : Int) : Bool := p.left ≤ x && x < p.right && p.top ≤ y && y < p.bottom

def coversPixel (p : Patch) (x y : Nat) : Bool :=
  p.left ≤ 4 * x && 4 * (x : Int) + 4 ≤ p.right && p.top ≤ 4 * y && 4 * (y : Int) + 4 ≤ p.bottom

end Patch

/-- The parts of a pixel, of which it has sixteen, that lie in one of some patches. -/
def coverage (patches : List Patch) (x y : Nat) : Nat :=
  if patches.any fun p => p.coversPixel x y then 16
  else
    ((List.range 16).filter fun i =>
      patches.any fun p => p.covers (4 * x + (i % 4 : Nat)) (4 * y + (i / 4 : Nat))).length

def nearestQuarter (edge : Rat) : Int := (4 * edge + 1 / 2).floor

def patch (line : Line) (scale : Rat) (box : GlyphBox) : Patch where
  left := nearestQuarter (line.start + scale * box.left)
  top := nearestQuarter (line.baseline - scale * box.high)
  right := nearestQuarter (line.start + scale * box.right)
  bottom := nearestQuarter (line.baseline - scale * box.low)

def patches (font : Font) (line : Line) : List Patch :=
  match FontFamily.asksFor line.family font.families, font.face with
  | true, some face =>
    (face.lineBoxes ((setting line.text).takeWhile fun c => !endsParagraph c)).map
      (patch line (line.size / face.unitsPerEm))
  | _, _ => []

/-! ## Colours -/

def multiplied (channel opacity : UInt8) : UInt8 :=
  ((channel.toNat * opacity.toNat * 2 + 255) / 510).toUInt8

def dilute (opacity : UInt8) (parts : Nat) : UInt8 :=
  if 16 ≤ parts then opacity else ((opacity.toNat * 16 * parts + 127) / 255).toUInt8

/-- The colour of a pixel with so many painted parts, multiplied by its opacity. -/
def ink (rgba : Rgba) (parts : Nat) : Rgba :=
  let opacity := dilute rgba.a parts
  ⟨multiplied rgba.r opacity, multiplied rgba.g opacity, multiplied rgba.b opacity, opacity⟩

/-- Patches with the colours of pixels by their painted parts. -/
structure Drawing where
  patches : List Patch
  colors : Array Rgba

def drawing (font : Font) (line : Line) : Drawing :=
  ⟨patches font line, ((List.range 17).map (ink line.rgba)).toArray⟩

/-- Whether a canvas can be made: a row has to fit into 31 bits of bytes. -/
def allocates (width height : Nat) : Bool :=
  0 < width && 0 < height && width * 4 < 0x80000000

end BoxEngine

instance boxEngine : TextEngine where
  Document := BoxEngine.Drawing
  family? file := (Font.read? file).map Font.family
  read? file document := do
    let font ← Font.read? file
    return BoxEngine.drawing font (← BoxEngine.line? document)
  allocates := BoxEngine.allocates
  paint drawing x y :=
    (drawing.colors[BoxEngine.coverage drawing.patches x y]?).getD Rgba.clear

end Storyboard
