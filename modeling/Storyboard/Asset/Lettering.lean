import Storyboard.Failure
import Storyboard.Image.Basic
import Storyboard.Number.Decimal

/-! # Lettering

A line of text becomes an SVG document, which a text engine draws with a single font on a
transparent canvas. The canvas is three quarters of an em wide for each character and one em more,
and 1.6 em high; the text starts a quarter of an em from the left on a baseline 1.15 em below the
top. What the engine draws comes with colours multiplied by their opacity; they are divided by it
again, and margins are cut off.

The engine is a parameter: what fonts, documents and outlines come to is left to it.
-/

namespace Storyboard

/-- What reads fonts and draws documents. -/
class TextEngine where
  /-- A document that has been read, with the font that it is drawn with. -/
  Document : Type
  /-- The first family of the faces in a font file. -/
  family? : ByteArray → Option String
  /-- Reads a document that is drawn with the font of a file. -/
  read? : ByteArray → String → Option Document
  /-- Whether there can be a canvas of a width and a height. -/
  allocates : Nat → Nat → Bool
  /-- What a document shows in a column and a row, multiplied by the opacity. -/
  paint : Document → Nat → Nat → Rgba

/-- The colour of a pixel that was multiplied by its opacity. -/
def Rgba.unmultiplied (c : Rgba) : Rgba :=
  if c.a = 0 ∨ c.a = 255 then c
  else
    let channel (x : UInt8) : UInt8 :=
      (min 255 ((x.toNat * 255 + c.a.toNat / 2) / c.a.toNat)).toUInt8
    ⟨channel c.r, channel c.g, channel c.b, c.a⟩

namespace Lettering

/-- Whether a size is finite and above zero. -/
def isSize (sizePx : Float32) : Bool :=
  match singleValue sizePx with
  | .finite number => !number.negative && number.significand != 0
  | _ => false

/-- The least integer that is not below a number, brought into 32 bits. -/
def ceilWord (x : Float32) : Nat :=
  match singleValue x with
  | .finite number => min number.toRat.ceil.toNat (UInt32.size - 1)
  | .infinite negative => if negative then 0 else UInt32.size - 1
  | .nan => 0

def canvasWidth (sizePx : Float32) (characters : Nat) : Nat :=
  ceilWord (sizePx * (0.75 * Float32.ofNat (max characters 1) + 1.0))

def canvasHeight (sizePx : Float32) : Nat := ceilWord (sizePx * 1.6)

/-- A character as it is written in a document. -/
def escapeChar (c : Char) : List Char :=
  match c with
  | '&' => "&amp;".toList
  | '<' => "&lt;".toList
  | '>' => "&gt;".toList
  | '\"' => "&quot;".toList
  | '\x27' => "&apos;".toList
  | _ => [c]

/-- A text as it is written in a document. -/
def escape (text : String) : String := String.ofList (text.toList.flatMap escapeChar)

/-- A number as it is written in a document. -/
def number (x : Float32) : String := NumberStyle.inMessage.write .single (singleValue x)

/-- An attribute of an element. -/
def field (name value : String) : String := " " ++ name ++ "=\"" ++ value ++ "\""

/-- A colour without its opacity. -/
def fill (rgba : Rgba) : String :=
  "rgb(" ++ ",".intercalate ([rgba.r, rgba.g, rgba.b].map fun n => toString n.toNat) ++ ")"

/-- The document of a line of text in a family. -/
def document (family text : String) (sizePx : Float32) (rgba : Rgba) : String :=
  "<svg" ++ field "xmlns" "http://www.w3.org/2000/svg" ++
    field "width" (toString (canvasWidth sizePx text.length)) ++
    field "height" (toString (canvasHeight sizePx)) ++ "><text" ++
    field "x" (number (sizePx * 0.25)) ++ field "y" (number (sizePx * 1.15)) ++
    field "font-family" (escape family) ++ field "font-size" (number sizePx) ++
    field "fill" (fill rgba) ++
    field "fill-opacity" (number (Float32.ofNat rgba.a.toNat / 255.0)) ++ ">" ++
    escape text ++ "</text></svg>"

def sizeFailure : Failure := .validation "text size_px must be finite and > 0"

def missingFailure (path : String) : Failure := .missingResource s!"font '{path}' not found"

def fontFailure (path : String) : Failure := .missingResource s!"font '{path}' has no usable face"

def textFailure : Failure := .other "parse text svg" []

def canvasFailure : Failure := .validation "failed to allocate text pixmap"

/-- A line of text in the font of a file, with its margins cut off. -/
def draw [TextEngine] (path : String) (file : ByteArray) (text : String) (sizePx : Float32)
    (rgba : Rgba) : Except Failure Image :=
  match TextEngine.family? file with
  | none => .error (fontFailure path)
  | some family =>
    let width := canvasWidth sizePx text.length
    let height := canvasHeight sizePx
    match TextEngine.read? file (document family text sizePx rgba) with
    | none => .error textFailure
    | some document =>
      if TextEngine.allocates width height then
        .ok ((Image.generate width height (TextEngine.paint document)).map Rgba.unmultiplied).crop
      else .error canvasFailure

end Lettering

end Storyboard
