import Storyboard.Character.Mark

/-! # Clusters

Characters that are set as one: a character with the marks and modifiers behind it, a flag of two
letters, or pictographs with joiners between them. The clusters of a text lose nothing of it.
-/

namespace Storyboard

namespace Cluster

/-- The character that joins what stands around it. -/
def joiner : Char := '\u200d'

/-- Whether a character changes the colour of the pictograph before it. -/
def isModifier (c : Char) : Bool := 0x1f3fb ≤ c.toNat && c.toNat ≤ 0x1f3ff

def isFlagLetter (c : Char) : Bool := 0x1f1e6 ≤ c.toNat && c.toNat ≤ 0x1f1ff

/-- Whether a character is a sound mark of a half width, or belongs to the tag of a flag. -/
def isSuffix (c : Char) : Bool :=
  (0xff9e ≤ c.toNat && c.toNat ≤ 0xff9f) || (0xe0020 ≤ c.toNat && c.toNat ≤ 0xe007f)

/-- A character, and whether it belongs to the cluster of the one before it. -/
structure Member where
  character : Char
  /-- Whether it goes on with a cluster. -/
  joins : Bool
  deriving DecidableEq, Repr

def follows (before : Option Member) (c : Char) : Bool :=
  isMark c || isModifier c || c == joiner || isSuffix c ||
    before.any fun b =>
      (isFlagLetter c && isFlagLetter b.character && !b.joins) ||
        (b.character == joiner && isPictograph c)

/-- The characters of a text behind one, if there is one. -/
def members (before : Option Member) : List Char → List Member
  | [] => []
  | c :: rest =>
    let member := ⟨c, follows before c⟩
    member :: members (some member) rest

def split (text : List Char) : List (List Char) :=
  ((members none text).splitBy fun _ next => next.joins).map fun cluster =>
    cluster.map Member.character

end Cluster

end Storyboard
