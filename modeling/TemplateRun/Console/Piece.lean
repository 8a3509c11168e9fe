/-
# `Piece` — text in rows of one width, piece by piece

A text is laid out, its lines are wrapped, and their rows are filled up with blanks.  But then the
pieces of a row are measured, each by itself, which may come to more or fewer columns, and the row
is cut or filled up again.  A new piece begins wherever something begins or ceases to stand out.
-/
import TemplateRun.Console.Highlight
import TemplateRun.Console.Layout
import TemplateRun.Console.Wrap
import TemplateRun.Text.Trace

namespace TemplateRun.Console

open Text

/-! ## Where pieces begin -/

/-- Whether a new piece begins at a position, behind a character.  A tab ends the piece it is in. -/
def beginsPiece (stretches : List Stretch) (behind : Option Char) (position : Nat) : Bool :=
  stretches.any fun s =>
    s.start = position || s.stop = position ||
      (behind = some '\t' && s.start < position && position < s.stop)

/-- A character on the screen. -/
structure Cell where
  char : Char
  /-- Whether a new piece begins with it. -/
  beginsPiece : Bool
  standsOut : Bool
deriving DecidableEq, Repr

/-- The cells of what stands for one character on the screen. -/
def cellsOf (beginsPiece standsOut : Bool) : List Char → List Cell
  | [] => []
  | c :: rest => ⟨c, beginsPiece, standsOut⟩ :: rest.map fun c => ⟨c, false, standsOut⟩

def cells (text : List Char) : List Cell :=
  let stretches := highlights text
  let places := (none :: text.map some).zip (List.range text.length)
  (places.zip (layoutEach (.startAt 0) text)).flatMap fun ((behind, position), shown) =>
    cellsOf (beginsPiece stretches behind position)
      (stretches.any fun s => s.start ≤ position && position < s.stop) shown

/-- The pieces of a row, behind the beginning of one, which is given from its end. -/
def piecesFrom : (begun : List Char) → List Cell → List (List Char)
  | begun, [] => [begun.reverse]
  | begun, cell :: rest =>
    if cell.beginsPiece then begun.reverse :: piecesFrom [cell.char] rest
    else piecesFrom (cell.char :: begun) rest

/-- The pieces of a row.  The first may be empty. -/
def pieces (row : List Cell) : List (List Char) := piecesFrom [] row

/-! ## Rows of one width -/

def piecesWidth (ps : List (List Char)) : Nat := ps.foldl (fun n piece => n + width piece) 0

/-- As many pieces as leave room behind them, and what has room of the next one. -/
def cropPieces : (room : Nat) → List (List Char) → List (List Char)
  | _, [] => []
  | room, piece :: rest =>
    if width piece < room then piece :: cropPieces (room - width piece) rest else [crop room piece]

/-- What pieces show in a number of columns, filled up with blanks.  What is left of a piece may
take fewer columns than it had room for. -/
def fitPieces (limit : Nat) (ps : List (List Char)) : List Char :=
  let fitting := if piecesWidth ps ≤ limit then ps else cropPieces limit ps
  fitting.flatten ++ List.replicate (limit - piecesWidth fitting) ' '

/-- The rows of a line with what sticks out cut off. -/
def cutRows (limit : Nat) : (rows : List (List Char)) → (line : List Cell) → List (List Cell)
  | [], _ => []
  | row :: rest, line =>
    (crop limit (trimExcess limit row)).zipWith (fun c cell => { cell with char := c }) line ::
      cutRows limit rest (line.drop row.length)

/-- A row with blanks behind it.  They are a piece of their own if what is before them stands
out. -/
def padRow (limit : Nat) (row : List Cell) : List Cell :=
  row ++ cellsOf (row.getLast?.any Cell.standsOut) false
    (List.replicate (limit - width (row.map Cell.char)) ' ')

def lineRows (limit : Nat) (line : List Cell) : List (List Char) :=
  (cutRows limit (fill limit (line.map Cell.char)).rows line).map fun row =>
    fitPieces limit (pieces (padRow limit row))

/-- The rows of a text. -/
def rows (limit : Nat) (text : List Char) : List (List Char) :=
  ((cells (traces text)).splitOnP fun cell => cell.char = '\n').flatMap (lineRows limit)

end TemplateRun.Console
