import Storyboard.Hex
import Storyboard.Json.Value

/-! # Writing structured text

Compact text has no blanks at all; indented text has one line for each item and member, two blanks
deeper than what it belongs to. Numbers are written with the fewest digits that read back.
-/

namespace Storyboard

namespace JsonNumber

/-- The text of a number; what is not finite has none and is written as the empty value. -/
def write : JsonNumber → String
  | .integer n => toString n
  | .double x => NumberStyle.inJson.write .double x.value
  | .single x => NumberStyle.inJsonSingle.write .single (singleValue x)
  | .tooLarge => "null"

end JsonNumber

namespace Json

/-- A character inside of a string. -/
def escape (c : Char) : List Char :=
  if c = '"' then ['\\', '"']
  else if c = '\\' then ['\\', '\\']
  else if c = '\n' then ['\\', 'n']
  else if c = '\r' then ['\\', 'r']
  else if c = '\t' then ['\\', 't']
  else if c = '\x08' then ['\\', 'b']
  else if c = '\x0c' then ['\\', 'f']
  else if c.toNat < 0x20 then
    ['\\', 'u', '0', '0', hexDigit (c.toNat / 16), hexDigit c.toNat]
  else [c]

def quote (s : String) : String :=
  "\"" ++ String.ofList (s.toList.flatMap escape) ++ "\""

/-- A string in quotes; one that spells half of a character is written empty. -/
def quoteOrEmpty (s : Option String) : String := quote (s.getD "")

/-- Text without blanks. -/
def compact : Json → String
  | .null => "null"
  | .bool b => if b then "true" else "false"
  | .number n => n.write
  | .string s => quoteOrEmpty s
  | .array items =>
    "[" ++ ",".intercalate (items.attach.map fun ⟨item, _⟩ => item.compact) ++ "]"
  | .object members =>
    "\x7b" ++
      ",".intercalate
        (members.attach.map fun ⟨m, _⟩ => quoteOrEmpty m.1 ++ ":" ++ m.2.compact) ++
      "\x7d"
termination_by j => sizeOf j
decreasing_by
  · rename_i member
    have := List.sizeOf_lt_of_mem member
    simp only [Json.array.sizeOf_spec]
    omega
  · rename_i member
    have := List.sizeOf_lt_of_mem member
    obtain ⟨key, value⟩ := m
    simp only [Json.object.sizeOf_spec, Prod.mk.sizeOf_spec] at this ⊢
    omega

def newLine (level : Nat) : String := "\n" ++ String.ofList (List.replicate (2 * level) ' ')

/-- Text with a line for each item and member, at some level. -/
def indentedAt (level : Nat) : Json → String
  | .array [] => "[]"
  | .object [] => "\x7b\x7d"
  | .array items =>
    let lines := items.attach.map fun ⟨item, _⟩ =>
      newLine (level + 1) ++ item.indentedAt (level + 1)
    "[" ++ ",".intercalate lines ++ newLine level ++ "]"
  | .object members =>
    let lines := members.attach.map fun ⟨m, _⟩ =>
      newLine (level + 1) ++ quoteOrEmpty m.1 ++ ": " ++ m.2.indentedAt (level + 1)
    "\x7b" ++ ",".intercalate lines ++ newLine level ++ "\x7d"
  | plain => plain.compact
termination_by j => sizeOf j
decreasing_by
  · rename_i member
    have := List.sizeOf_lt_of_mem member
    simp only [Json.array.sizeOf_spec]
    omega
  · rename_i member
    have := List.sizeOf_lt_of_mem member
    obtain ⟨key, value⟩ := m
    simp only [Json.object.sizeOf_spec, Prod.mk.sizeOf_spec] at this ⊢
    omega

/-- Text with a line for each item and member. -/
def indented (j : Json) : String := j.indentedAt 0

end Json

end Storyboard
