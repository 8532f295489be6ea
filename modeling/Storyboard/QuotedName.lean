import Storyboard.Character.Hidden

/-! # Quoted names

A name between double quotes. Quotes, backslashes and characters that do not show for themselves
are written as escapes.
-/

namespace Storyboard

namespace QuotedName

/-- A character between the quotes. -/
def character (c : Char) : List Char :=
  if c = '"' then ['\\', '"']
  else if c = '\\' then ['\\', '\\']
  else if c = '\n' then ['\\', 'n']
  else if c = '\r' then ['\\', 'r']
  else if c = '\t' then ['\\', 't']
  else if c = '\x00' then ['\\', '0']
  else if isHidden c then "\\u\x7b".toList ++ Nat.toDigits 16 c.toNat ++ "\x7d".toList
  else [c]

/-- The name between quotes. -/
def write (name : String) : String := "\"" ++ String.ofList (name.toList.flatMap character) ++ "\""

end QuotedName

end Storyboard
