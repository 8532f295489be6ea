/-! # Binary floating-point formats, exactly

A finite floating-point number is an integer times a power of two. This module reads that pair off
the bits of a number, for both widths in use, and computes with it where an operation has to be
exact: integral parts and remainders.
-/

namespace Storyboard

/-- The field widths of a binary interchange format. -/
structure BinaryFormat where
  /-- Bits of the fraction field. -/
  fractionBits : Nat
  /-- Bits of the exponent field. -/
  exponentBits : Nat
  deriving DecidableEq, Repr

def BinaryFormat.double : BinaryFormat := ⟨52, 11⟩

def BinaryFormat.single : BinaryFormat := ⟨23, 8⟩

/-- The number `significand * 2 ^ exponent` with a sign. -/
structure BinaryNumber where
  /-- Whether the sign bit is set. -/
  negative : Bool
  significand : Nat
  exponent : Int
  deriving DecidableEq, Repr

/-- What a bit pattern stands for. -/
inductive BinaryValue where
  /-- A finite number, zeros included. -/
  | finite (number : BinaryNumber)
  | infinite (negative : Bool)
  | nan
  deriving DecidableEq, Repr

namespace BinaryFormat

/-- The offset of the exponent field. -/
def bias (format : BinaryFormat) : Int := (1 <<< (format.exponentBits - 1) : Nat) - 1

/-- The power of two of the least significant bit of the smallest numbers. -/
def leastExponent (format : BinaryFormat) : Int := 1 - format.bias - format.fractionBits

def read (format : BinaryFormat) (bits : Nat) : BinaryValue :=
  let fraction := bits % (1 <<< format.fractionBits)
  let field := bits >>> format.fractionBits % (1 <<< format.exponentBits)
  let negative := bits >>> (format.fractionBits + format.exponentBits) % 2 == 1
  if field = 1 <<< format.exponentBits - 1 then
    if fraction = 0 then .infinite negative else .nan
  else if field = 0 then .finite ⟨negative, fraction, format.leastExponent⟩
  else .finite ⟨negative, fraction + 1 <<< format.fractionBits, format.leastExponent + field - 1⟩

end BinaryFormat

namespace BinaryNumber

/-- The rational number that is meant. -/
def toRat (number : BinaryNumber) : Rat :=
  let size : Rat :=
    if 0 ≤ number.exponent then ((number.significand <<< number.exponent.toNat : Nat) : Rat)
    else mkRat number.significand (1 <<< (-number.exponent).toNat)
  if number.negative then -size else size

/-- The integral part of the magnitude. -/
def integralSize (number : BinaryNumber) : Nat :=
  if 0 ≤ number.exponent then number.significand <<< number.exponent.toNat
  else number.significand >>> (-number.exponent).toNat

/-- The integral part, toward zero. -/
def trunc (number : BinaryNumber) : Int :=
  if number.negative then -(number.integralSize : Int) else number.integralSize

/-- The 64-bit pattern of a number that the format holds exactly. -/
def toDoubleBits (number : BinaryNumber) : Nat :=
  let sign := if number.negative then 0x8000000000000000 else 0
  if number.significand = 0 then sign
  else
    let room := 52 - number.significand.log2
    let shift := Min.min room (number.exponent + 1074).toNat
    let significand := number.significand <<< shift
    let exponent := number.exponent - shift
    if significand < 1 <<< 52 then sign + significand
    else sign + (exponent + 1075).toNat <<< 52 + (significand - 1 <<< 52)

/-- The remainder of a division whose quotient is taken toward zero; `none` for a zero divisor. -/
def rem? (dividend divisor : BinaryNumber) : Option BinaryNumber :=
  let exponent := Min.min dividend.exponent divisor.exponent
  let top := dividend.significand <<< (dividend.exponent - exponent).toNat
  let bottom := divisor.significand <<< (divisor.exponent - exponent).toNat
  if bottom = 0 then none else some ⟨dividend.negative, top % bottom, exponent⟩

end BinaryNumber

def singleValue (x : Float32) : BinaryValue := BinaryFormat.single.read x.toBits.toNat

end Storyboard
