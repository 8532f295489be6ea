import Storyboard.Number.Scalar
import Storyboard.Failure
import Storyboard.Hex

/-! # Colours

A colour has three channels from 0 to 255, kept as numbers so that colours can be blended.
Hexadecimal text gives the channels as three pairs of digits.
-/

namespace Storyboard

/-- A colour by its channels. -/
structure Color (R : Type) where
  r : R
  g : R
  b : R
  deriving DecidableEq, Repr

namespace Color

variable {R : Type} [Scalar R]

/-- The colour that tints nothing. -/
def white : Color R := ⟨255.0, 255.0, 255.0⟩

/-- The colour whose channels are given as parts of the whole. -/
def ofParts (r g b : R) : Color R := ⟨r * 255.0, g * 255.0, b * 255.0⟩

/-- The channels as parts of the whole. -/
def parts (c : Color R) : R × R × R := (c.r / 255.0, c.g / 255.0, c.b / 255.0)

/-- The colour on the way from one to another. -/
def blend (c d : Color R) (t : R) : Color R :=
  ⟨c.r + (d.r - c.r) * t, c.g + (d.g - c.g) * t, c.b + (d.b - c.b) * t⟩

/-- The value of a channel: two digits, or a plus sign and one digit. -/
def hexPair? (first second : Char) : Option Nat :=
  if first = '+' then hexDigit? second
  else
    match hexDigit? first, hexDigit? second with
    | some high, some low => some (16 * high + low)
    | _, _ => none

/-- Why a text is no colour. -/
inductive HexError where
  /-- It does not have six characters of one byte after the number sign. -/
  | form
  /-- It has characters that are no digits. -/
  | digits
  deriving DecidableEq, Repr

def HexError.message (text : String) : HexError → String
  | .form => s!"color '{text}' must be in #rrggbb form"
  | .digits => s!"color '{text}' has invalid hex digits"

/-- The characters after one leading number sign, if there is one. -/
def dropNumberSign : List Char → List Char
  | '#' :: rest => rest
  | text => text

/-- The channels of a text of three pairs of digits. -/
def hexChannels? (text : String) : Except HexError (Nat × Nat × Nat) :=
  match dropNumberSign text.toList with
  | digits@([a, b, c, d, e, f]) =>
    if digits.all fun digit => digit.toNat < 128 then
      match hexPair? a b, hexPair? c d, hexPair? e f with
      | some r, some g, some b => .ok (r, g, b)
      | _, _, _ => .error .digits
    else .error .form
  | _ => .error .form

/-- The colour that a text gives, as six hexadecimal digits after an optional number sign. -/
def ofHex? (text : String) : Except Failure (Color R) :=
  match hexChannels? text with
  | .ok (r, g, b) => .ok ⟨Scalar.ofNat r, Scalar.ofNat g, Scalar.ofNat b⟩
  | .error e => .error (.validation (e.message text))

end Color

end Storyboard
