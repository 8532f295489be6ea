/-! # Choosing a family

A text asks for fonts by a list of families with commas between them. A family is a row of words or
stands between quotes; some words ask for any font of a kind. A list that cannot be read, or that
is empty, asks for the usual family, and every list ends with it.
-/

namespace Storyboard

namespace FontFamily

/-- The family to take where no other one is asked for. -/
def usual : String := "Times New Roman"

/-- Whether a character separates words. -/
def isBlank (c : Char) : Bool := c == ' ' || c == '\t' || c == '\n' || c == '\r'

def startsWord (c : Char) : Bool := c == '_' || c.isAlpha || 237 < c.toNat

def continuesWord (c : Char) : Bool := startsWord c || c.isDigit || c == '-'

def ofWords (words : List String) : String :=
  match " ".intercalate words with
  | "serif" => usual
  | "sans-serif" => "Arial"
  | "cursive" => "Comic Sans MS"
  | "fantasy" => "Impact"
  | "monospace" => "Courier New"
  | name => name

/-- Where in a list reading is. -/
inductive Place where
  /-- Before a family, and whether behind a blank. -/
  | before (blank : Bool)
  /-- Between the words of a family. -/
  | between (words : List String)
  /-- Behind the dash that a word starts with. -/
  | dash (words : List String)
  /-- In a word. -/
  | word (words : List String) (letters : List Char)
  /-- Behind a quote. -/
  | quoted (quote : Char) (letters : List Char)
  /-- Right behind the second quote. -/
  | closed
  /-- Behind a blank behind the second quote. -/
  | trailing
  deriving DecidableEq, Repr

/-- What has been read of a list. -/
structure Progress where
  /-- The families that have been read. -/
  families : List String := []
  /-- Where reading is. -/
  place : Place := .before false
  deriving DecidableEq, Repr

namespace Progress

def stepBetween (families words : List String) (c : Char) : Option Progress :=
  if isBlank c then some ⟨families, .between words⟩
  else if c = ',' then some ⟨families ++ [ofWords words], .before false⟩
  else if c = '-' then some ⟨families, .dash words⟩
  else if startsWord c then some ⟨families, .word words [c]⟩
  else none

/-- Reads a character. -/
def step (p : Progress) (c : Char) : Option Progress :=
  match p.place with
  | .before _ =>
    if isBlank c then some ⟨p.families, .before true⟩
    else if c = '"' ∨ c = '\'' then some ⟨p.families, .quoted c []⟩
    else stepBetween p.families [] c
  | .between words => stepBetween p.families words c
  | .dash words => if startsWord c then some ⟨p.families, .word words ['-', c]⟩ else none
  | .word words letters =>
    if continuesWord c then some ⟨p.families, .word words (letters ++ [c])⟩
    else stepBetween p.families (words ++ [String.ofList letters]) c
  | .quoted quote letters =>
    if c = quote then some ⟨p.families ++ [String.ofList letters], .closed⟩
    else some ⟨p.families, .quoted quote (letters ++ [c])⟩
  | .closed =>
    if c = ',' then some ⟨p.families, .before false⟩
    else if isBlank c then some ⟨p.families, .trailing⟩
    else none
  | .trailing => if isBlank c then some p else none

def finish? (p : Progress) : Option (List String) :=
  match p.place with
  | .before blank => if blank then none else some p.families
  | .between words => some (p.families ++ [ofWords words])
  | .dash words => some (p.families ++ [ofWords (words ++ ["-"])])
  | .word words letters => some (p.families ++ [ofWords (words ++ [String.ofList letters])])
  | .quoted _ _ => none
  | .closed | .trailing => some p.families

end Progress

def list? (text : String) : Option (List String) :=
  ((text.toList.foldlM Progress.step {}).bind Progress.finish?).map fun families =>
    families.filter (· ≠ "")

/-- The families that a list asks for, the one to take first in front. -/
def wanted (text : String) : List String :=
  let listed := if text = "inherit" then [] else (list? text).getD []
  (if listed = [] then [usual] else listed) ++ [usual]

def asksFor (text : String) (families : List String) : Bool :=
  (wanted text).any fun name => families.contains name

end FontFamily

end Storyboard
