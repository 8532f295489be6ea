import Storyboard.Hex
import Storyboard.Json.Value

/-! # Reading structured text

The strict grammar: no blanks but four, no control characters in strings, no superfluous zeros,
commas or text after the value. A text is read byte by byte, each byte as the character of its code;
only the bytes between quotes have to be encoded characters. A number is its digits, as far as they
fit into 64 bits, multiplied or divided by a power of ten in double precision.
-/

namespace Storyboard

namespace JsonNumber

/-- The number that digits spell, as long as it fits into 64 bits, and the digits that are left. -/
def fitting (value : Nat) : List Nat → Nat × List Nat
  | [] => (value, [])
  | digit :: rest =>
    if value * 10 + digit < UInt64.size then fitting (value * 10 + digit) rest
    else (value, digit :: rest)

/-- The greatest power of ten in double precision. -/
def greatestPower : Nat := 308

def power (exponent : Nat) : Float := Float.ofScientific 1 false exponent

/-- A number times a power of ten by a single operation, or by more if the power is too small for
the format; `none` if the result is too large. -/
def scaled (x : Float) (exponent : Int) : Option Float :=
  if 0 ≤ exponent then
    if x == 0.0 then some x
    else if exponent ≤ greatestPower ∧ !(x * power exponent.toNat).isInf then
      some (x * power exponent.toNat)
    else none
  else if -greatestPower ≤ exponent then some (x / power exponent.natAbs)
  else if x == 0.0 then some x
  else scaled (x / power greatestPower) (exponent + greatestPower)
termination_by exponent.natAbs
decreasing_by
  simp only [greatestPower] at *
  omega

/-- The number that digits before and after the point and an exponent spell. The digits that do not
fit into 64 bits count as zeros. -/
def ofDecimal (negative : Bool) (whole places : List Nat) (exponent : Int) : JsonNumber :=
  let (value, left) := fitting 0 whole
  let (digits, dropped) := fitting value places
  let shift := (left.length : Int) + dropped.length - places.length
  match scaled (Float.ofNat digits) (exponent + shift) with
  | some x => .double (Double.ofFloat (if negative then -x else x))
  | none => .tooLarge

/-- An integer literal; one that 64 bits cannot hold, and a negative zero, are other numbers. -/
def ofInteger (negative : Bool) (whole : List Nat) : JsonNumber :=
  let (value, left) := fitting 0 whole
  if !left.isEmpty then ofDecimal negative whole [] 0
  else if negative then
    if 0 < value ∧ value ≤ 0x8000000000000000 then .integer (-(value : Int))
    else ofDecimal true whole [] 0
  else .integer value

end JsonNumber

namespace JsonReader

/-- The bytes of a text, each as the character of its code. -/
def byteCharacters (bytes : ByteArray) : List Char :=
  bytes.data.toList.map fun b => Char.ofNat b.toNat

/-- The text that bytes encode, if they do. -/
def decode (bytes : List Char) : Option String :=
  String.fromUTF8? ⟨(bytes.map fun c => c.toNat.toUInt8).toArray⟩

def encode (c : Char) : List Char := byteCharacters c.toString.toUTF8

def skipBlanks (text : List Char) : List Char :=
  text.dropWhile fun c => c = ' ' ∨ c = '\t' ∨ c = '\n' ∨ c = '\r'

/-- A code of four hexadecimal digits. -/
def readCode : List Char → Option (Nat × List Char)
  | a :: b :: c :: d :: rest => do
    let a ← hexDigit? a
    let b ← hexDigit? b
    let c ← hexDigit? c
    let d ← hexDigit? d
    return (a * 4096 + b * 256 + c * 16 + d, rest)
  | _ => none

/-- The second half of a pair of codes, if the text goes on with one. -/
def readSecondHalf? : List Char → Option (Nat × List Char)
  | '\\' :: 'u' :: rest => do
    let (code, rest) ← readCode rest
    if 0xDC00 ≤ code ∧ code < 0xE000 then some (code, rest) else none
  | _ => none

/-- The character of an escape by code; half of a character is none. -/
def readEscapedCode (text : List Char) : Option (Option Char × List Char) := do
  let (code, rest) ← readCode text
  if 0xD800 ≤ code ∧ code < 0xDC00 then
    match readSecondHalf? rest with
    | some (second, rest) =>
      return (some (Char.ofNat (0x10000 + (code - 0xD800) * 0x400 + (second - 0xDC00))), rest)
    | none => return (none, rest)
  else if 0xDC00 ≤ code ∧ code < 0xE000 then return (none, rest)
  else return (some (Char.ofNat code), rest)

/-- The character after a backslash. -/
def readEscape : List Char → Option (Option Char × List Char)
  | '"' :: rest => some (some '"', rest)
  | '\\' :: rest => some (some '\\', rest)
  | '/' :: rest => some (some '/', rest)
  | 'b' :: rest => some (some '\x08', rest)
  | 'f' :: rest => some (some '\x0c', rest)
  | 'n' :: rest => some (some '\n', rest)
  | 'r' :: rest => some (some '\r', rest)
  | 't' :: rest => some (some '\t', rest)
  | 'u' :: rest => readEscapedCode rest
  | _ => none

/-- The characters of a string up to its closing quote, with `fuel` at least the number of bytes;
`read` has the bytes before, the last one first. -/
def readCharacters : Nat → List Char → List Char → Bool → Option (Option String × List Char)
  | _, '"' :: rest, read, sound =>
    some (if sound then decode read.reverse else none, rest)
  | fuel + 1, '\\' :: rest, read, sound => do
    let (c, rest) ← readEscape rest
    match c with
    | some c => readCharacters fuel rest ((encode c).reverse ++ read) sound
    | none => readCharacters fuel rest read false
  | fuel + 1, c :: rest, read, sound =>
    if c.toNat < 0x20 then none else readCharacters fuel rest (c :: read) sound
  | _, _, _, _ => none

/-- A string after its opening quote. -/
def readString (text : List Char) : Option (Option String × List Char) :=
  readCharacters text.length text [] true

/-- Decimal digits and what follows them. -/
def spanDigits (text : List Char) : List Nat × List Char :=
  let (digits, rest) := text.span Char.isDigit
  (digits.map fun c => c.toNat - '0'.toNat, rest)

/-- The digits before the point, without superfluous zeros. -/
def readWhole (text : List Char) : Option (List Nat × List Char) :=
  match spanDigits text with
  | ([], _) => none
  | (0 :: _ :: _, _) => none
  | (digits, rest) => some (digits, rest)

/-- The digits after the point, if there is one. -/
def readPlaces : List Char → Option (Option (List Nat) × List Char)
  | '.' :: rest =>
    match spanDigits rest with
    | ([], _) => none
    | (digits, rest) => some (some digits, rest)
  | text => some (none, text)

def readExponentDigits (negative : Bool) (text : List Char) : Option (Option Int × List Char) :=
  match spanDigits text with
  | ([], _) => none
  | (digits, rest) =>
    let size : Nat := digits.foldl (fun value digit => value * 10 + digit) 0
    some (some (if negative then -(size : Int) else size), rest)

def readExponent : List Char → Option (Option Int × List Char)
  | c :: rest =>
    if c = 'e' ∨ c = 'E' then
      match rest with
      | '+' :: rest => readExponentDigits false rest
      | '-' :: rest => readExponentDigits true rest
      | rest => readExponentDigits false rest
    else some (none, c :: rest)
  | [] => some (none, [])

/-- A number after its sign. -/
def readNumber (negative : Bool) (text : List Char) : Option (JsonNumber × List Char) := do
  let (whole, rest) ← readWhole text
  let (places, rest) ← readPlaces rest
  let (exponent, rest) ← readExponent rest
  match places, exponent with
  | none, none => return (.ofInteger negative whole, rest)
  | _, _ => return (.ofDecimal negative whole (places.getD []) (exponent.getD 0), rest)

/-- The rest of the text after a word that it starts with. -/
def dropWord? : List Char → List Char → Option (List Char)
  | [], text => some text
  | w :: word, c :: text => if w = c then dropWord? word text else none
  | _ :: _, [] => none

/-- Values that are no arrays and no objects. -/
def readPlain : List Char → Option (Json × List Char)
  | '"' :: rest => do
    let (s, rest) ← readString rest
    return (.string s, rest)
  | '-' :: rest => do
    let (n, rest) ← readNumber true rest
    return (.number n, rest)
  | text =>
    match dropWord? "null".toList text, dropWord? "true".toList text,
      dropWord? "false".toList text with
    | some rest, _, _ => some (.null, rest)
    | _, some rest, _ => some (.bool true, rest)
    | _, _, some rest => some (.bool false, rest)
    | none, none, none => do
      let (n, rest) ← readNumber false text
      return (.number n, rest)

mutual

/-- A value after blanks, with `fuel` at least the length of the text. -/
def readValue : Nat → List Char → Option (Json × List Char)
  | 0, _ => none
  | fuel + 1, text =>
    match skipBlanks text with
    | '[' :: rest =>
      match skipBlanks rest with
      | ']' :: rest => some (.array [], rest)
      | rest => do
        let (items, rest) ← readItems fuel rest
        return (.array items, rest)
    | '{' :: rest =>
      match skipBlanks rest with
      | '}' :: rest => some (.object [], rest)
      | rest => do
        let (members, rest) ← readMembers fuel rest
        return (.object members, rest)
    | text => readPlain text

/-- The items of an array from the first one to the closing bracket. -/
def readItems : Nat → List Char → Option (List Json × List Char)
  | 0, _ => none
  | fuel + 1, text => do
    let (item, rest) ← readValue fuel text
    match skipBlanks rest with
    | ']' :: rest => return ([item], rest)
    | ',' :: rest =>
      let (items, rest) ← readItems fuel rest
      return (item :: items, rest)
    | _ => none

/-- The members of an object from the first one to the closing brace. -/
def readMembers : Nat → List Char → Option (List (Option String × Json) × List Char)
  | 0, _ => none
  | fuel + 1, text =>
    match skipBlanks text with
    | '"' :: rest => do
      let (key, rest) ← readString rest
      match skipBlanks rest with
      | ':' :: rest =>
        let (value, rest) ← readValue fuel rest
        match skipBlanks rest with
        | '}' :: rest => return ([(key, value)], rest)
        | ',' :: rest =>
          let (members, rest) ← readMembers fuel rest
          return ((key, value) :: members, rest)
        | _ => none
      | _ => none
    | _ => none

end

end JsonReader

/-- The value that the bytes of a text spell, if they spell one and nothing else. -/
def Json.ofBytes? (bytes : ByteArray) : Option Json :=
  match JsonReader.readValue (bytes.size + 1) (JsonReader.byteCharacters bytes) with
  | some (value, rest) => if (JsonReader.skipBlanks rest).isEmpty then some value else none
  | none => none

/-- The value that a text spells, if it spells one and nothing else. -/
def Json.parse? (text : String) : Option Json := Json.ofBytes? text.toUTF8

end Storyboard
