import Storyboard.Font.Face
import Storyboard.Font.Family
import Storyboard.Font.Name

/-! # Fonts

A font is a face that has names. Text asks for it by the first of its families; a font that this
does not lead to, or whose tables are broken, draws nothing. Fonts are only read by the text engine
of boxes.
-/

namespace Storyboard

/-- A font. -/
structure Font where
  /-- The families that it belongs to. -/
  families : List String
  /-- What glyphs are drawn with, unless tables are broken. -/
  face : Option FontFace

namespace Font

def ofFile? (file : FontFile) : Option Font :=
  (FontName.familiesIn? file).map fun families => ⟨families, FontFace.read? file⟩

def read? (bytes : ByteArray) : Option Font := (FontFile.faces bytes).findSome? ofFile?

def family (font : Font) : String := font.families.head?.getD ""

end Font

end Storyboard
