/-
# `Width` — how many columns a text takes on a terminal

A text takes the columns of its characters, but for two characters that change what stands beside
them.  A joiner melts the character behind it into the one before it, so that the former takes no
columns of its own.  A selector asks for the wide form of the character that it follows, if that
one has a wide form, and asks once.

`width` measures from left to right (`Measure`).  `clusters` cuts a text between the characters
that can be told apart on the screen, which is where a line may be broken.
-/
import TemplateRun.Text.Columns

namespace TemplateRun.Text

/-- The character that joins the next one to the one before. -/
def joiner : Char := '\u200d'

/-- The character that asks for the wide form of the one before. -/
def emojiSelector : Char := '\ufe0f'

/-! ## Measuring -/

/-- How far a text has been measured. -/
structure Measure where
  /-- The columns so far. -/
  cells : Nat
  /-- The last character with columns of its own, until a selector has spoken to it. -/
  base : Option Char
  /-- Whether the next character is joined to the ones before. -/
  isJoining : Bool
deriving DecidableEq, Repr

namespace Measure

/-- Nothing is measured yet, and the next character goes to a column. -/
def startAt (column : Nat) : Measure := ⟨column, none, false⟩

/-- One more column if the character has a wide form. -/
def widening (base : Option Char) : Nat := if base.any isEmojiCapable then 1 else 0

/-- The measure behind one more character. -/
def step (m : Measure) (c : Char) : Measure :=
  if m.isJoining then { m with isJoining := false }
  else if c = joiner then { m with isJoining := true }
  else if c = emojiSelector then ⟨m.cells + widening m.base, none, false⟩
  else if columns c = 0 then m
  else ⟨m.cells + columns c, some c, false⟩

end Measure

def width (s : List Char) : Nat := (s.foldl Measure.step (Measure.startAt 0)).cells

/-! ## Clusters -/

/-- Characters that are shown as one, and the columns that they take. -/
structure Cluster where
  chars : List Char
  cells : Nat
deriving DecidableEq, Repr

/-- The cluster with one more character in it. -/
def Cluster.push (cluster : Cluster) (c : Char) (cells : Nat) : Cluster :=
  ⟨cluster.chars ++ [c], cluster.cells + cells⟩

/-- The clusters of a text that goes on behind `current`, whose columns a selector may still widen
if it has a `base`. -/
def clustersFrom : (current : Cluster) → (base : Option Char) → (isJoining : Bool) →
    List Char → List Cluster
  | current, _, _, [] => [current]
  | current, base, isJoining, c :: rest =>
    if isJoining then clustersFrom (current.push c 0) base false rest
    else if c = joiner then clustersFrom (current.push c 0) base true rest
    else if c = emojiSelector then
      clustersFrom (current.push c (Measure.widening base)) none false rest
    else if columns c = 0 then clustersFrom (current.push c 0) base false rest
    else current :: clustersFrom ⟨[c], columns c⟩ (some c) false rest

/-- The clusters of a text.  A joiner at the beginning has nothing to join. -/
def clusters : List Char → List Cluster
  | [] => []
  | c :: rest => clustersFrom ⟨[c], columns c⟩ (if columns c = 0 then none else some c) false rest

end TemplateRun.Text
