import Storyboard.Number.Binary

/-! # Decimal text of numbers

Two ways to choose decimal digits: the fewest that read back as the same binary number, and a
fixed count of places rounded from the exact value. How digits become text is a `NumberStyle`,
one for structured output and one for messages.
-/

namespace Storyboard

/-- The number `digits * 10 ^ exponent`. -/
structure Decimal where
  /-- The digits, read as a number. -/
  digits : Nat
  /-- The power of ten of the last digit. -/
  exponent : Int
  deriving DecidableEq, Repr

namespace Decimal

/-- Drops zeros at the end of the digits, at most `fuel` of them. -/
def strip : Nat → Decimal → Decimal
  | 0, d => d
  | fuel + 1, d =>
    if d.digits ≠ 0 ∧ d.digits % 10 = 0 then strip fuel ⟨d.digits / 10, d.exponent + 1⟩ else d

/-- The decimals between which a binary number is the nearest one of its format. -/
structure Interval where
  /-- The lower end, the number and the upper end, in units of `numerator / denominator`. -/
  low : Nat
  /-- The number itself. -/
  mid : Nat
  /-- The upper end. -/
  high : Nat
  /-- Whether both ends read back as the number too. -/
  closed : Bool
  /-- Numerator of the unit. -/
  numerator : Nat
  /-- Denominator of the unit. -/
  denominator : Nat
  deriving DecidableEq, Repr

/-- The interval of a positive number; it is narrower below a power of two. -/
def Interval.of (format : BinaryFormat) (number : BinaryNumber) : Interval :=
  let m := number.significand
  let e := number.exponent - 2
  let atPower := m = 1 <<< format.fractionBits ∧ format.leastExponent < number.exponent
  { low := if atPower then 4 * m - 1 else 4 * m - 2
    mid := 4 * m
    high := 4 * m + 2
    closed := m % 2 = 0
    numerator := 1 <<< e.toNat
    denominator := 1 <<< (-e).toNat }

/-- Where a decimal goes that is as near to the one below as to the one above. -/
inductive Tie where
  /-- To the one with the even last digit. -/
  | even
  /-- To the greater one. -/
  | up
  deriving DecidableEq, Repr

/-- The nearest multiple of `10 ^ exponent` in the interval. -/
def Interval.onGrid? (i : Interval) (tie : Tie) (exponent : Int) : Option Nat :=
  let unit := Nat.pow 10 exponent.toNat * i.denominator
  let scale := i.numerator * Nat.pow 10 (-exponent).toNat
  let inside (c : Nat) : Bool :=
    if i.closed then i.low * scale ≤ c * unit && c * unit ≤ i.high * scale
    else i.low * scale < c * unit && c * unit < i.high * scale
  let below := i.mid * scale / unit
  let above := below + 1
  match inside below, inside above with
  | true, true =>
    let down := i.mid * scale - below * unit
    let up := above * unit - i.mid * scale
    if down < up then some below
    else if up < down then some above
    else if tie = .even ∧ below % 2 = 0 then some below else some above
  | true, false => some below
  | false, true => some above
  | false, false => none

/-- The number of digits before the point, or minus the zeros after it. -/
def Interval.leading (i : Interval) : Int :=
  let top := i.mid * i.numerator
  let guess : Int := (((top.log2 : Int) - i.denominator.log2) * 30103) / 100000 - 1
  let holds (e : Int) : Bool :=
    top * Nat.pow 10 (-e).toNat < i.denominator * Nat.pow 10 e.toNat
  ((List.range 5).map fun (n : Nat) => guess + n).find? holds |>.getD guess

/-- The decimal with the fewest digits in the interval of a positive number. -/
def shortest (format : BinaryFormat) (tie : Tie) (number : BinaryNumber) : Decimal :=
  let i := Interval.of format number
  let leading := i.leading
  let grid (n : Nat) : Option Decimal :=
    (i.onGrid? tie (leading - n)).map fun digits => ⟨digits, leading - n⟩
  let found := ((List.range 17).map (· + 1)).findSome? grid
  strip 17 (found.getD ⟨number.significand, number.exponent⟩)

end Decimal

/-- How chosen digits are written. -/
structure NumberStyle where
  /-- The least power of ten of a leading digit that is written without an exponent. -/
  least : Option Int
  /-- The greatest such power of ten. -/
  greatest : Option Int
  /-- Whether an integer ends in `.0`. -/
  pointZero : Bool
  /-- The text of an infinity without its sign, if it has one. -/
  infinity : Option String
  /-- The text of what is no number, and of an infinity that has no text. -/
  missing : String
  /-- Which one of two nearest decimals is written. -/
  tie : Decimal.Tie
  deriving DecidableEq, Repr

namespace NumberStyle

/-- Messages write every number without an exponent and integers without a point; of two decimals
that are equally near the greater one. -/
def inMessage : NumberStyle := ⟨none, none, false, some "inf", "NaN", .up⟩

/-- Structured output writes an exponent outside of `1e-5` to `1e15` and has no infinities. -/
def inJson : NumberStyle := ⟨some (-5), some 15, true, none, "null", .even⟩

/-- Structured output of single precision has a shorter range without an exponent. -/
def inJsonSingle : NumberStyle := ⟨some (-6), some 12, true, none, "null", .even⟩

def zeros (n : Nat) : String := String.ofList (List.replicate n '0')

/-- The digits with a point and no exponent. -/
def positional (style : NumberStyle) (d : Decimal) : String :=
  let text := toString d.digits
  let places : Int := text.length + d.exponent
  if 0 ≤ d.exponent then
    text ++ zeros d.exponent.toNat ++ (if style.pointZero then ".0" else "")
  else if 0 < places then
    String.ofList (text.toList.take places.toNat) ++ "." ++
      String.ofList (text.toList.drop places.toNat)
  else "0." ++ zeros (-places).toNat ++ text

/-- The digits with a point after the first one and an exponent. -/
def scientific (d : Decimal) : String :=
  let text := toString d.digits
  let exponent : Int := text.length + d.exponent - 1
  let head := String.ofList (text.toList.take 1)
  let tail := String.ofList (text.toList.drop 1)
  let sign := if exponent < 0 then "-" else "+"
  head ++ (if tail.isEmpty then "" else "." ++ tail) ++ "e" ++ sign ++ toString exponent.natAbs

/-- Chooses between the two ways to write the digits. -/
def digits (style : NumberStyle) (d : Decimal) : String :=
  let leading : Int := (toString d.digits).length + d.exponent - 1
  let small := style.least.any fun least => decide (leading < least)
  let large := style.greatest.any fun greatest => decide (greatest < leading)
  if small || large then scientific d else style.positional d

def write (style : NumberStyle) (format : BinaryFormat) : BinaryValue → String
  | .finite number =>
    let sign := if number.negative then "-" else ""
    if number.significand = 0 then sign ++ style.positional ⟨0, 0⟩
    else sign ++ style.digits (Decimal.shortest format style.tie number)
  | .infinite negative =>
    match style.infinity with
    | some text => if negative then "-" ++ text else text
    | none => style.missing
  | .nan => style.missing

end NumberStyle

/-- The nearest integer to a quotient, a half going to the even one. -/
def divideToEven (numerator denominator : Nat) : Nat :=
  let quotient := numerator / denominator
  let rest := 2 * (numerator % denominator)
  if rest < denominator then quotient
  else if denominator < rest then quotient + 1
  else if quotient % 2 = 0 then quotient else quotient + 1

/-- The text of a rational number with two places. -/
def hundredths (q : Rat) : String :=
  let total := divideToEven (q.num.natAbs * 100) q.den
  let places := toString (total % 100)
  (if q.num < 0 then "-" else "") ++ toString (total / 100) ++ "." ++
    NumberStyle.zeros (2 - places.length) ++ places

end Storyboard
