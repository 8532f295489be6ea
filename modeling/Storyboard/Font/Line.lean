import Storyboard.Character.Cluster
import Storyboard.Font.Face

/-! # Lines of text

Sets characters with a face and tells which boxes they fill, in font units from the start of the
line. A cluster is as wide as the widest of its glyphs. Characters without a glyph take the glyph
of an equal character, are blanks of a width of their own, or take the glyph for what is missing.
-/

namespace Storyboard

/-- A glyph that stands for a character. -/
structure SetGlyph where
  /-- How far it advances. -/
  advance : Nat
  /-- The box that it fills. -/
  box : Option GlyphBox
  deriving DecidableEq, Repr

namespace GlyphBox

def shift (box : GlyphBox) (distance : Nat) : GlyphBox :=
  { box with left := box.left + distance, right := box.right + distance }

end GlyphBox

namespace SetGlyph

/-- Ranges of characters that change how others are set and are not set themselves. -/
def controls : List (Nat × Nat) :=
  [(0xad, 0xad), (0x34f, 0x34f), (0x61c, 0x61c), (0x17b4, 0x17b5), (0x180b, 0x180e),
    (0x200b, 0x200f), (0x202a, 0x202e), (0x2060, 0x206f), (0xfe00, 0xfe0f), (0xfeff, 0xfeff),
    (0xfff0, 0xfff8), (0x1d173, 0x1d17a), (0xe0000, 0xe0fff)]

/-- Whether a character is not set itself. -/
def isControl (c : Char) : Bool :=
  controls.any fun (first, last) => first ≤ c.toNat && c.toNat ≤ last

/-- The character that is equal to another one: signs that are letters, and marks that are
punctuation. -/
def equal? (c : Char) : Option Char :=
  match c.toNat with
  | 0x212a => some 'K'
  | 0x212b => some 'Å'
  | 0x37e => some ';'
  | 0x1fef => some (Char.ofNat 0x60)
  | _ => none

end SetGlyph

namespace FontFace

def advanceOfFirst? (face : FontFace) (characters : List Char) : Option Nat :=
  (characters.findSome? face.glyph?).map face.advance

/-- The width of a blank without a glyph beside a blank that has one and its width. -/
def blankWidth? (face : FontFace) (blank : Nat) (c : Char) : Option Nat :=
  let part (n : Nat) : Option Nat := some ((face.unitsPerEm + n / 2) / n)
  match c.toNat with
  | 0xa0 => some blank
  | 0x2000 | 0x2002 => part 2
  | 0x2001 | 0x2003 | 0x3000 => part 1
  | 0x2004 => part 3
  | 0x2005 => part 4
  | 0x2006 => part 6
  | 0x2007 => some ((face.advanceOfFirst? "0123456789".toList).getD blank)
  | 0x2008 => some ((face.advanceOfFirst? ['.', ',']).getD blank)
  | 0x2009 => part 5
  | 0x200a => part 16
  | 0x202f => some (blank / 2)
  | 0x205f => some (face.unitsPerEm * 4 / 18)
  | _ => none

def setGlyph (face : FontFace) (c : Char) (glyph : Nat) : SetGlyph :=
  ⟨if isNonspacing c then 0 else face.advance glyph, face.box? glyph⟩

def set (face : FontFace) (c : Char) : SetGlyph :=
  if SetGlyph.isControl c then ⟨0, none⟩
  else
    match face.glyph? c, (SetGlyph.equal? c).bind face.glyph? with
    | some glyph, _ => face.setGlyph c glyph
    | none, some glyph => face.setGlyph c glyph
    | none, none =>
      let width := (face.glyph? ' ').bind fun blank => face.blankWidth? (face.advance blank) c
      match width with
      | some width => ⟨width, (face.glyph? ' ').bind face.box?⟩
      | none => face.setGlyph c 0

def boxesFrom (start : Nat) : List SetGlyph → List GlyphBox
  | [] => []
  | glyph :: rest =>
    (glyph.box.map fun box => box.shift start).toList ++ boxesFrom (start + glyph.advance) rest

def clusterBoxes (face : FontFace) (start : Nat) : List (List Char) → List GlyphBox
  | [] => []
  | cluster :: rest =>
    let glyphs := cluster.map face.set
    let width := (glyphs.map SetGlyph.advance).foldl max 0
    boxesFrom start glyphs ++ face.clusterBoxes (start + width) rest

def lineBoxes (face : FontFace) (line : List Char) : List GlyphBox :=
  face.clusterBoxes 0 (Cluster.split line)

end FontFace

end Storyboard
