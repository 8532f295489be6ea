import Storyboard.Font.File

/-! # Faces

What lettering draws with: how far each glyph advances, the box that it fills, and the glyphs of
characters by the grouped forms of a character map. Tables that break the rules of the format make
a face that nothing can be drawn with.
-/

namespace Storyboard

open BigEndian

/-- The box of a glyph in font units, from the left and from the baseline up. -/
structure GlyphBox where
  left : Int
  low : Int
  right : Int
  high : Int
  deriving DecidableEq, Repr

/-- A group of characters in a map. -/
structure GlyphGroup where
  first : Nat
  last : Nat
  /-- The glyph of the first character. -/
  glyph : Nat
  deriving DecidableEq, Repr

/-- How far glyphs advance. -/
structure GlyphAdvances where
  /-- The advances, of which the last one is that of all the glyphs behind it. -/
  advances : List Nat
  /-- How many glyphs have an advance. -/
  count : Nat
  deriving DecidableEq, Repr

/-- A face that text can be drawn with. -/
structure FontFace where
  /-- The units of one em. -/
  unitsPerEm : Nat
  /-- How far glyphs advance, if that is told. -/
  advances : Option GlyphAdvances
  /-- Where the outlines of glyphs start and end. -/
  places : List Nat
  outlines : ByteArray
  /-- The character map: whether all characters of a group have the same glyph, and the groups. -/
  map : Option (Bool × List GlyphGroup)

namespace FontFace

/-- The settings in the table of general ones: the units of one em, and whether the places of
outlines are written in full. -/
def settings? (head : ByteArray) : Option (Nat × Bool) :=
  if head.size < 54 then none
  else do
    let units ← word? head 18
    let form ← word? head 50
    if 16 ≤ units && units ≤ 0x4000 && form ≤ 1 then some (units, form == 1) else none

def advanceCount? (lines : ByteArray) : Option Nat := do
  let ascent ← signedWord? lines 4
  let descent ← signedWord? lines 6
  let count ← word? lines 34
  if 3 ≤ ascent - descent then some count else none

def glyphCount? (profile : ByteArray) : Option Nat := do
  let version ← long? profile 0
  let count ← word? profile 4
  if (version = 0x5000 ∨ version = 0x10000) ∧ count ≠ 0 then some count else none

def advances? (table : ByteArray) (told glyphs : Nat) : Option GlyphAdvances :=
  if told = 0 ∨ table.size < 4 * told + 2 * (glyphs - told) then none
  else some ⟨(List.range told).filterMap fun i => word? table (4 * i), max told glyphs⟩

/-- The places of outlines in their table, one more than there are glyphs. -/
def placesIn (table : ByteArray) (full : Bool) (glyphs : Nat) : List Nat :=
  let count := min (glyphs + 1) (UInt16.size - 1)
  if full then (List.range count).filterMap fun i => long? table (4 * i)
  else (List.range count).filterMap fun i => (word? table (2 * i)).map (2 * ·)

/-- The kinds of character maps to choose from, the best one first: a platform and an encoding. -/
def mapKinds : List (Nat × Nat) :=
  [(3, 10), (0, 6), (0, 4), (3, 1), (0, 3), (0, 2), (0, 1), (0, 0), (3, 0)]

def groups? (map : ByteArray) : Option (Bool × List GlyphGroup) := do
  let form ← word? map 0
  if form = 12 ∨ form = 13 then
    let count ← long? map 12
    if 16 + 12 * count ≤ map.size then
      let groups ← (List.range count).mapM fun i => do
        let group := 16 + 12 * i
        return (⟨← long? map group, ← long? map (group + 4), ← long? map (group + 8)⟩ : GlyphGroup)
      return (form == 13, groups)
    else none
  else none

def map? (table : ByteArray) : Option (Bool × List GlyphGroup) := do
  let count ← word? table 2
  if 4 + 8 * count ≤ table.size then
    let maps := (List.range count).filterMap fun i => do
      let entry := 4 + 8 * i
      let kind := (← word? table entry, ← word? table (entry + 2))
      let map ← tail? table (← long? table (entry + 4))
      return (kind, ← groups? map)
    mapKinds.findSome? fun kind => maps.lookup kind
  else none

def read? (file : FontFile) : Option FontFace := do
  let (unitsPerEm, full) ← settings? (← file.lastTable? "head")
  let told ← advanceCount? (← file.lastTable? "hhea")
  let glyphs ← glyphCount? (← file.lastTable? "maxp")
  return {
    unitsPerEm
    advances := (file.lastTable? "hmtx").bind fun table => advances? table told glyphs
    places := ((file.lastTable? "loca").map fun table => placesIn table full glyphs).getD []
    outlines := (file.lastTable? "glyf").getD ByteArray.empty
    map := (file.lastTable? "cmap").bind map? }

def glyph? (face : FontFace) (c : Char) : Option Nat := do
  let (same, groups) ← face.map
  let group ← groups.find? fun group => group.first ≤ c.toNat && c.toNat ≤ group.last
  let glyph := if same then group.glyph else group.glyph + (c.toNat - group.first)
  if glyph < UInt16.size then some glyph else none

def advance (face : FontFace) (glyph : Nat) : Nat :=
  match face.advances with
  | none => face.unitsPerEm
  | some told =>
    if glyph < told.count then
      (told.advances[min glyph (told.advances.length - 1)]?).getD 0
    else 0

def box? (face : FontFace) (glyph : Nat) : Option GlyphBox := do
  let start ← face.places[glyph]?
  let stop ← face.places[glyph + 1]?
  if start < stop then
    let outline ← part? face.outlines start (stop - start)
    let contours ← signedWord? outline 0
    if contours = 0 then none
    else
      return ⟨← signedWord? outline 2, ← signedWord? outline 4, ← signedWord? outline 6,
        ← signedWord? outline 8⟩
  else none

end FontFace

end Storyboard
