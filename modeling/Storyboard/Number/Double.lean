import Storyboard.Number.Scalar
import Storyboard.Number.Decimal

/-! # Double precision as storyboard numbers

The arithmetic that a build runs on. A number is kept by its 64 bits, so patterns that stand for no
number stay apart from each other: sorting places them by sign and payload like all other patterns.
Arithmetic hands the first of them on, and has one pattern of its own for a result that does not
exist. Messages write numbers with the fewest digits that read back.
-/

namespace Storyboard

/-- A number of double precision. -/
structure Double where
  /-- The sign, the exponent and the fraction. -/
  bits : UInt64
  deriving DecidableEq, Repr

namespace Double

def value (x : Double) : BinaryValue := BinaryFormat.double.read x.bits.toNat

/-- The bits without the sign. -/
def unsigned (x : Double) : UInt64 := x.bits &&& 0x7FFFFFFFFFFFFFFF

/-- The pattern stands for no number. -/
def isNaN (x : Double) : Bool := 0x7FF0000000000000 < x.unsigned

/-- The pattern stands for a finite number. -/
def isFinite (x : Double) : Bool := x.unsigned < 0x7FF0000000000000

/-- The machine number. -/
def toFloat (x : Double) : Float := Float.ofBits x.bits

/-- The result of an operation that has none. -/
def undefined : Double := ⟨0xFFF8000000000000⟩

/-- A result of machine arithmetic. -/
def ofFloat (x : Float) : Double := if x.isNaN then undefined else ⟨x.toBits⟩

/-- The nearest number to an integer. -/
def ofInt (n : Int) : Double := ofFloat (Float.ofInt n)

/-- An operand that is no number, as a result. -/
def quiet (x : Double) : Double := ⟨x.bits ||| 0x0008000000000000⟩

/-- An operation on one operand. -/
def unary (op : Float → Float) (x : Double) : Double :=
  if x.isNaN then x.quiet else ofFloat (op x.toFloat)

/-- An operation on two operands; the first one that is no number is the result. -/
def binary (op : Float → Float → Float) (x y : Double) : Double :=
  if x.isNaN then x.quiet else if y.isNaN then y.quiet else ofFloat (op x.toFloat y.toFloat)

/-- The number with the other sign. -/
def negate (x : Double) : Double := ⟨x.bits ^^^ 0x8000000000000000⟩

/-- The place among all numbers; both zeros have the same one. -/
def place (x : Double) : Int :=
  let bits : Int := x.bits.toNat
  if bits < 0x8000000000000000 then bits else 0x8000000000000000 - bits

/-- The place among all patterns: by sign, then by the other bits. -/
def rank (x : Double) : Int :=
  let bits : Int := x.bits.toNat
  if bits < 0x8000000000000000 then bits else 0x7FFFFFFFFFFFFFFF - bits

instance : Add Double := ⟨binary (· + ·)⟩

instance : Sub Double := ⟨binary (· - ·)⟩

instance : Mul Double := ⟨binary (· * ·)⟩

instance : Div Double := ⟨binary (· / ·)⟩

instance : Neg Double := ⟨negate⟩

instance : OfScientific Double := ⟨fun digits below exponent =>
  ofFloat (Float.ofScientific digits below exponent)⟩

instance : LE Double := ⟨fun x y => x.isNaN = false ∧ y.isNaN = false ∧ x.place ≤ y.place⟩

instance : LT Double := ⟨fun x y => x.isNaN = false ∧ y.isNaN = false ∧ x.place < y.place⟩

instance (x y : Double) : Decidable (x ≤ y) :=
  inferInstanceAs (Decidable (x.isNaN = false ∧ y.isNaN = false ∧ x.place ≤ y.place))

instance (x y : Double) : Decidable (x < y) :=
  inferInstanceAs (Decidable (x.isNaN = false ∧ y.isNaN = false ∧ x.place < y.place))

/-- A number that the format holds exactly. -/
def ofBinary (number : BinaryNumber) : Double := ⟨UInt64.ofNat number.toDoubleBits⟩

/-- The integral part, toward zero. -/
def trunc (x : Double) : Double :=
  match x.value with
  | .finite number =>
    if 0 ≤ number.exponent then x else ofBinary ⟨number.negative, number.integralSize, 0⟩
  | _ => x

/-- The integral part brought into an interval; no number counts as zero. -/
def clampedTrunc (lo hi : Int) (x : Double) : Int :=
  match x.value with
  | .finite number => Max.max lo (Min.min hi number.trunc)
  | .infinite negative => if negative then lo else hi
  | .nan => 0

/-- The exact remainder, with the sign of the dividend. -/
def rem (x y : Double) : Double :=
  match x.value, y.value with
  | .nan, _ => x.quiet
  | _, .nan => y.quiet
  | .finite dividend, .finite divisor =>
    match dividend.rem? divisor with
    | some number => ofBinary number
    | none => undefined
  | .finite _, .infinite _ => x
  | .infinite _, _ => undefined

end Double

instance : Scalar Double where
  ofNat n := Double.ofInt n
  decidableLE := inferInstance
  decidableLT := inferInstance
  totalLE x y := decide (x.rank ≤ y.rank)
  rational? x :=
    match x.value with
    | .finite number => some number.toRat
    | _ => none
  trunc := Double.trunc
  clampedTrunc := Double.clampedTrunc
  rem := Double.rem
  message x := NumberStyle.inMessage.write .double x.value

/-- The functions of the platform's mathematical library. -/
instance : Transcendental Double where
  sin := Double.unary Float.sin
  exp2 := Double.unary (Float.pow 2.0)
  sqrt := Double.unary Float.sqrt

end Storyboard
