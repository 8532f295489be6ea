import Storyboard.Font.File

/-! # Names of fonts

The names that a face has: the families that it belongs to, the one in American English first. A
face without a family, or without a name for printers, has no names.
-/

namespace Storyboard

open BigEndian

/-- For which kind of system a name is written. -/
inductive FontPlatform where
  /-- Systems of any kind, with units of two bytes. -/
  | universal
  /-- Systems with an encoding for each script. -/
  | macintosh
  /-- Systems by an old standard. -/
  | standard
  /-- Systems with a language for each place. -/
  | windows
  /-- Systems of other kinds. -/
  | custom
  deriving DecidableEq, Repr

def FontPlatform.ofNumber? : Nat → Option FontPlatform
  | 0 => some .universal
  | 1 => some .macintosh
  | 2 => some .standard
  | 3 => some .windows
  | 4 => some .custom
  | _ => none

/-- A name of a face as it is written in the file. -/
structure FontName where
  /-- For which kind of system it is written. -/
  platform : FontPlatform
  /-- How its characters are written there. -/
  encoding : Nat
  /-- Its language there. -/
  language : Nat
  /-- What it names. -/
  kind : Nat
  /-- Its bytes. -/
  bytes : ByteArray

namespace FontName

/-- The kind of the name of a family of four styles. -/
def family : Nat := 1

def printer : Nat := 6

/-- The kind of the name of a family of any number of styles. -/
def wideFamily : Nat := 16

/-- Whether a name is written in units of two bytes. -/
def isWide (name : FontName) : Bool :=
  match name.platform with
  | .universal => true
  | .windows => name.encoding == 0 || name.encoding == 1
  | _ => false

/-- Whether a name is written in bytes for Latin letters. -/
def isRoman (name : FontName) : Bool := name.platform == .macintosh && name.encoding == 0

def isAmerican (name : FontName) : Bool :=
  match name.platform with
  | .windows => name.language == 0x409
  | .macintosh => name.encoding == 0 && name.language == 0
  | _ => false

/-- The characters that units of two bytes spell; halves of a pair have no meaning of their own. -/
def ofUnits? : List Nat → Option (List Char)
  | [] => some []
  | high :: rest =>
    if high < 0xd800 ∨ 0xe000 ≤ high then (ofUnits? rest).map (Char.ofNat high :: ·)
    else if high < 0xdc00 then
      match rest with
      | low :: rest =>
        if 0xdc00 ≤ low ∧ low < 0xe000 then
          (ofUnits? rest).map (Char.ofNat (0x10000 + (high - 0xd800) * 0x400 + (low - 0xdc00)) :: ·)
        else none
      | [] => none
    else none

/-- The characters of the bytes above those that are the same everywhere. -/
def romanLetters : List Char :=
  ("ÄÅÇÉÑÖÜáàâäãåçéèêëíìîïñóòôöõúùûü†°¢£§•¶ß®©™´¨≠ÆØ∞±≤≥¥µ∂∑∏π∫ªºΩæø¿¡¬√ƒ≈∆«»…\u00a0ÀÃÕŒœ–—“”‘’÷" ++
    "◊ÿŸ⁄€‹›ﬁﬂ‡·‚„‰ÂÊÁËÈÍÎÏÌÓÔ\uf8ffÒÚÛÙıˆ˜¯˘˙˚¸˝˛ˇ").toList

/-- The character that a byte for Latin letters spells. -/
def ofRomanByte (b : UInt8) : Char :=
  if b < 0x80 then Char.ofNat b.toNat else (romanLetters[b.toNat - 0x80]?).getD '?'

def text? (name : FontName) : Option String :=
  if name.isWide then
    let units := (List.range (name.bytes.size / 2)).filterMap fun i => word? name.bytes (2 * i)
    (ofUnits? units).map String.ofList
  else if name.isRoman then some (String.ofList (name.bytes.toList.map ofRomanByte))
  else none

/-- The name in an entry of a table of names, the texts of which follow each other. -/
def at? (table texts : ByteArray) (entry : Nat) : Option FontName := do
  let platform ← FontPlatform.ofNumber? (← word? table entry)
  let length ← word? table (entry + 8)
  let offset ← word? table (entry + 10)
  return {
    platform
    encoding := ← word? table (entry + 2)
    language := ← word? table (entry + 4)
    kind := ← word? table (entry + 6)
    bytes := ← part? texts offset length }

/-- The leading entries of a list that can be read. -/
def readable {α β : Type} (read : α → Option β) : List α → List β
  | [] => []
  | entry :: rest =>
    match read entry with
    | some name => name :: readable read rest
    | none => []

def inTable (table : ByteArray) : Option (List FontName) := do
  let version ← word? table 0
  let count ← word? table 2
  let texts ← word? table 4
  let start ←
    match version with
    | 0 => some 6
    | 1 =>
      (word? table 6).bind fun tags =>
        if tags * 4 < UInt16.size then some (8 + tags * 4) else none
    | _ => none
  if start + 12 * count ≤ table.size then
    let texts ← tail? table (max texts (start + 12 * count))
    return readable (at? table texts) ((List.range count).map fun i => start + 12 * i)
  else none

/-- The families that names of a kind name, and whether that is in American English. -/
def familiesOf (names : List FontName) (kind : Nat) : List (String × Bool) :=
  let read (name : FontName) : Option (String × Bool) :=
    name.text?.map fun text => (text, name.isAmerican)
  let wide := (names.filter fun name => name.kind == kind && name.isWide).filterMap read
  if wide.any Prod.snd then wide
  else
    let roman := (names.filter fun name => name.kind == kind && name.isRoman).filterMap read
    wide ++ roman.take 1

/-- Puts the first family in American English in the place of the first one, and that in its. -/
def americanFirst (families : List (String × Bool)) : List (String × Bool) :=
  match families, families.findIdx? Prod.snd with
  | first :: _, some (i + 1) =>
    match families[i + 1]? with
    | some american => american :: (families.set (i + 1) first).tail
    | none => families
  | _, _ => families

def families (names : List FontName) : List String :=
  let wide := familiesOf names wideFamily
  let found := if wide.isEmpty then familiesOf names family else wide
  (americanFirst found).map Prod.fst

/-- The families of a face that has all the names it needs. -/
def familiesIn? (file : FontFile) : Option (List String) := do
  let names ← inTable (← file.sortedTable? "name")
  let families := families names
  let forPrinters ← names.find? fun name => name.kind == printer && (name.isWide || name.isRoman)
  let _ ← forPrinters.text?
  if families.isEmpty then none else some families

end FontName

end Storyboard
