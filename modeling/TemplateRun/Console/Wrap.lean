/-
# `Wrap` — a line of text in rows of a limited width

A line is cut into stretches, each a word with the blanks around it, and the rows are filled with
them from the left.  A stretch goes to the next row if its word has no room in this one.  A word
that has no room in any row is broken wherever a row is full, but only between clusters.  Blanks
that stick out at the end of a row are cut off.
-/
import TemplateRun.Text.Blank
import TemplateRun.Text.Width

namespace TemplateRun.Console

open Text

/-! ## Stretches -/

/-- The stretches of a line that goes on behind the beginning of one, which is given from its end.
`hasEnded` tells that the word in it is over. -/
def stretchesFrom : (begun : List Char) → (hasWord hasEnded : Bool) → List Char →
    List (List Char)
  | begun, _, _, [] => [begun.reverse]
  | begun, hasWord, hasEnded, c :: rest =>
    if isBlank c then stretchesFrom (c :: begun) hasWord hasWord rest
    else if hasEnded then begun.reverse :: stretchesFrom [c] true false rest
    else stretchesFrom (c :: begun) true false rest

/-- The words of a line, each with the blanks behind it, the first with those before it too. -/
def stretches (line : List Char) : List (List Char) := stretchesFrom [] false false line

/-! ## Filling rows -/

/-- Rows that are full, and the one that is being filled. -/
structure Filling where
  full : List (List Char)
  row : List Char
  /-- The columns of the row that is being filled. -/
  cells : Nat
deriving DecidableEq, Repr

namespace Filling

def blank : Filling := ⟨[], [], 0⟩

def rows (f : Filling) : List (List Char) := f.full ++ [f.row]

/-- More text in the row that is being filled. -/
def append (f : Filling) (s : List Char) : Filling :=
  { f with row := f.row ++ s, cells := f.cells + width s }

/-- The text in a row of its own. -/
def startRow (f : Filling) (s : List Char) : Filling :=
  ⟨if f.row = [] then f.full else f.rows, s, width s⟩

end Filling

/-- Clusters in rows, behind a row that is not full. -/
def packFrom (limit : Nat) : (row : List Char) → (cells : Nat) → List Cluster → List (List Char)
  | row, _, [] => [row]
  | row, cells, cluster :: rest =>
    if limit < cells + cluster.cells then row :: packFrom limit cluster.chars cluster.cells rest
    else packFrom limit (row ++ cluster.chars) (cells + cluster.cells) rest

/-- A text broken wherever a row is full. -/
def pack (limit : Nat) (s : List Char) : List (List Char) := packFrom limit [] 0 (clusters s)

/-- The rows with one more stretch in them. -/
def place (limit : Nat) (f : Filling) (stretch : List Char) : Filling :=
  let needed := width (trimEnd stretch)
  if f.cells + needed ≤ limit then f.append stretch
  else if needed ≤ limit then f.startRow stretch
  else (pack limit stretch).foldl Filling.startRow f

/-- The rows of a line, with all its blanks. -/
def fill (limit : Nat) (line : List Char) : Filling :=
  (stretches line).foldl (place limit) .blank

/-! ## The ends of rows -/

/-- A text, from its end, without the first blanks, `excess` at most. -/
def dropBlanks : (excess : Nat) → List Char → List Char
  | 0, s => s
  | _, [] => []
  | excess + 1, c :: rest => if isBlank c then dropBlanks excess rest else c :: rest

/-- The row without the blanks that stick out at its end. -/
def trimExcess (limit : Nat) (row : List Char) : List Char :=
  (dropBlanks (row.length - limit) row.reverse).reverse

/-- As many clusters as have room, and blanks for the one that would stick out. -/
def cropClusters : (room : Nat) → List Cluster → List Char
  | _, [] => []
  | room, cluster :: rest =>
    if cluster.cells ≤ room then cluster.chars ++ cropClusters (room - cluster.cells) rest
    else List.replicate room ' '

/-- The row without what sticks out. -/
def crop (limit : Nat) (row : List Char) : List Char :=
  if width row ≤ limit then row else cropClusters limit (clusters row)

end TemplateRun.Console
