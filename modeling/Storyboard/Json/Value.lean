import Storyboard.Number.Double

/-! # Structured text as values

A value of structured text keeps what a reader of typed data needs: members in order and with
repetitions, integers apart from other numbers, and the two defects that only matter when a part
is looked at, a number beyond all bounds and a string whose escapes spell half of a character.
-/

namespace Storyboard

/-- A number of structured text. -/
inductive JsonNumber where
  /-- An integer of 64 bits, with or without a sign. -/
  | integer (n : Int)
  /-- Any other number, in double precision. -/
  | double (x : Double)
  /-- A number that is kept in single precision. -/
  | single (x : Float32)
  /-- A number that double precision cannot hold. -/
  | tooLarge
  deriving DecidableEq

/-- A value of structured text; a key or string is missing if it spells half of a character. -/
inductive Json where
  | null
  | bool (b : Bool)
  | number (n : JsonNumber)
  | string (s : Option String)
  | array (items : List Json)
  /-- Members in the order in which they are written. -/
  | object (members : List (Option String × Json))

namespace Json

/-- A string without defects. -/
def text (s : String) : Json := .string (some s)

def nat (n : Nat) : Json := .number (.integer n)

def double (x : Double) : Json := .number (.double x)

/-- An object of named members. -/
def record (members : List (String × Json)) : Json :=
  .object (members.map fun m => (some m.1, m.2))

/-- How deeply arrays and objects are nested. -/
def depth : Json → Nat
  | .array items => (items.attach.map fun ⟨item, _⟩ => item.depth).foldl max 0 + 1
  | .object members => (members.attach.map fun ⟨m, _⟩ => m.2.depth).foldl max 0 + 1
  | _ => 0
termination_by j => sizeOf j
decreasing_by
  · rename_i member
    have := List.sizeOf_lt_of_mem member
    simp only [Json.array.sizeOf_spec]
    omega
  · rename_i member
    have := List.sizeOf_lt_of_mem member
    obtain ⟨key, value⟩ := m
    simp only [Json.object.sizeOf_spec, Prod.mk.sizeOf_spec] at this ⊢
    omega

/-- Whether no part has a defect. -/
def isSound : Json → Bool
  | .null | .bool _ => true
  | .number n => n ≠ .tooLarge
  | .string s => s.isSome
  | .array items => items.attach.all fun ⟨item, _⟩ => item.isSound
  | .object members => members.attach.all fun ⟨m, _⟩ => m.1.isSome && m.2.isSound
termination_by j => sizeOf j
decreasing_by
  · rename_i member
    have := List.sizeOf_lt_of_mem member
    simp only [Json.array.sizeOf_spec]
    omega
  · rename_i member
    have := List.sizeOf_lt_of_mem member
    obtain ⟨key, value⟩ := m
    simp only [Json.object.sizeOf_spec, Prod.mk.sizeOf_spec] at this ⊢
    omega

end Json

end Storyboard
