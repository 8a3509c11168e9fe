/-
# `Blank` — the characters that stand between words

Besides the space these are the controls that move to another place, four separators of records,
and the spaces of various widths, breaking or not.  `trim` takes them off both ends of a text, and
`words` leaves out all of them.
-/
import TemplateRun.Text.Printable

namespace TemplateRun.Text

def blanks : List (Nat × Nat) :=
  [(0x9, 0xd), (0x1c, 0x20), (0x85, 0x85), (0xa0, 0xa0), (0x1680, 0x1680), (0x2000, 0x200a),
   (0x2028, 0x2029), (0x202f, 0x202f), (0x205f, 0x205f), (0x3000, 0x3000)]

/-- Whether a character stands between words. -/
def isBlank (c : Char) : Bool := within blanks c.toNat

def trimEnd (s : List Char) : List Char := (s.reverse.dropWhile isBlank).reverse

def trim (s : List Char) : List Char := trimEnd (s.dropWhile isBlank)

/-- The words of a text that goes on behind the beginning of one, which is given from its end. -/
def wordsFrom : (begun : List Char) → List Char → List (List Char)
  | begun, [] => if begun = [] then [] else [begun.reverse]
  | begun, c :: rest =>
    if isBlank c then (if begun = [] then [] else [begun.reverse]) ++ wordsFrom [] rest
    else wordsFrom (c :: begun) rest

def words (s : List Char) : List (List Char) := wordsFrom [] s

end TemplateRun.Text
