import Storyboard.Json.Value

/-! # Typed data in structured text

Records are read from objects or from arrays that hold the fields in order. A field that is known
may stand only once; fields that are not known are ignored, or refused by strict records. Numbers
are read by the range of their type, and names of enumerations stand as strings or as the only
member of an object.
-/

namespace Storyboard

/-- The fields of a record in order. -/
structure RecordShape where
  fields : List String
  /-- Whether other fields are refused. -/
  strict : Bool := false
  deriving DecidableEq, Repr

abbrev Fields := List (String × Json)

namespace Fields

def find? (fields : Fields) (name : String) : Option Json := fields.lookup name

def required {α : Type} (fields : Fields) (name : String) (read : Json → Option α) : Option α :=
  (fields.find? name).bind read

/-- A field that may be missing. -/
def optional {α : Type} (fields : Fields) (name : String) (default : α)
    (read : Json → Option α) : Option α :=
  match fields.find? name with
  | some value => read value
  | none => some default

end Fields

namespace RecordShape

/-- The known fields among members, unless one stands twice or one is refused. -/
def ofMembers (shape : RecordShape) : List (Option String × Json) → Fields → Option Fields
  | [], read => some read.reverse
  | (none, _) :: _, _ => none
  | (some name, value) :: rest, read =>
    if shape.fields.contains name then
      if (read.lookup name).isSome then none else shape.ofMembers rest ((name, value) :: read)
    else if shape.strict then none
    else shape.ofMembers rest read

/-- The fields of an array, in order from the first one. -/
def ofItems (shape : RecordShape) (items : List Json) : Option Fields :=
  if shape.fields.length < items.length then none else some (shape.fields.zip items)

def read (shape : RecordShape) : Json → Option Fields
  | .object members => shape.ofMembers members []
  | .array items => shape.ofItems items
  | _ => none

end RecordShape

namespace Json

/-- A value that may be empty. -/
def option? {α : Type} (read : Json → Option α) : Json → Option (Option α)
  | .null => some none
  | value => (read value).map some

/-- A truth value. -/
def bool? : Json → Option Bool
  | .bool b => some b
  | _ => none

/-- A string without defects. -/
def string? : Json → Option String
  | .string s => s
  | _ => none

/-- Values in a row. -/
def list? {α : Type} (read : Json → Option α) : Json → Option (List α)
  | .array items => items.mapM read
  | _ => none

/-- An integer between two bounds. -/
def int? (least greatest : Int) : Json → Option Int
  | .number (.integer n) => if least ≤ n ∧ n ≤ greatest then some n else none
  | _ => none

/-- A natural number below a power of two. -/
def nat? (bits : Nat) (value : Json) : Option Nat :=
  (int? 0 (1 <<< bits - 1 : Nat) value).map Int.toNat

/-- A number in double precision. -/
def double? : Json → Option Double
  | .number (.integer n) => some (Double.ofInt n)
  | .number (.double x) => some x
  | .number (.single x) => some (Double.ofFloat x.toFloat)
  | _ => none

/-- A number in single precision; an integer is rounded once. -/
def single? : Json → Option Float32
  | .number (.integer n) => some (Float32.ofInt n)
  | .number (.double x) => some x.toFloat.toFloat32
  | .number (.single x) => some x
  | _ => none

/-- A name of an enumeration; in data that is read ahead, an empty object can stand for no data. -/
def named? {α : Type} (readAhead : Bool) (ofName? : String → Option α) : Json → Option α
  | .string (some name) => ofName? name
  | .object [(some name, .null)] => ofName? name
  | .object [(some name, .object [])] => if readAhead then ofName? name else none
  | _ => none

end Json

end Storyboard
