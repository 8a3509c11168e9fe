/-
# `Path` — where a file is, without looking

A path is a root and a list of segments.  Reading a text as a path drops what makes no difference,
which is empty segments and `.`, and keeps `..`, which may make one where links are involved.  Two
leading slashes are a root of their own; any other number of them is one slash.  A path written
out has one spelling, and paths are ordered by their segments, not by their spelling.
-/

namespace TemplateRun

/-! ## Segments -/

/-- Whether a text can stand between two slashes and make a difference. -/
def IsSegment (s : String) : Prop := s ≠ "" ∧ s ≠ "." ∧ '/' ∉ s.toList

instance (s : String) : Decidable (IsSegment s) := inferInstanceAs (Decidable (_ ∧ _ ∧ _))

/-- One step of a path. -/
structure Segment where
  text : String
  isSegment : IsSegment text
deriving DecidableEq

namespace Segment

/-- The text as a segment, if it makes a difference. -/
def ofText? (s : String) : Option Segment := if h : IsSegment s then some ⟨s, h⟩ else none

/-- The segment that leads to the directory above. -/
def up : Segment := ⟨"..", by decide⟩

end Segment

/-! ## Paths -/

/-- Where a path starts. -/
inductive PathRoot where
  | relative
  | absolute
  | doubled
deriving DecidableEq, Repr

/-- The slashes in front. -/
def PathRoot.text : PathRoot → String
  | relative => ""
  | absolute => "/"
  | doubled => "//"

/-- A place in a tree of files, as it is written. -/
structure Path where
  root : PathRoot
  segments : List Segment
deriving DecidableEq

namespace Path

def rootOf (s : List Char) : PathRoot :=
  match (s.takeWhile (· = '/')).length with
  | 0 => .relative
  | 2 => .doubled
  | _ => .absolute

def segmentsOf (s : List Char) : List Segment :=
  (s.splitOn '/').filterMap fun piece => Segment.ofText? (String.ofList piece)

/-- The path that a text stands for. -/
def parse (s : String) : Path := ⟨rootOf s.toList, segmentsOf s.toList⟩

/-- The one spelling of a path. -/
def text (p : Path) : String :=
  if p.root = .relative ∧ p.segments = [] then "."
  else p.root.text ++ "/".intercalate (p.segments.map Segment.text)

/-- The path of what is reached from `p` by further segments. -/
def below (p : Path) (more : List Segment) : Path := { p with segments := p.segments ++ more }

/-- The last segment, which is the name of the file there. -/
def name? (p : Path) : Option String := p.segments.getLast?.map Segment.text

/-! ## Order -/

/-- What paths are compared by: the slashes in front, if there are any, and the segments. -/
def parts (p : Path) : List String :=
  (if p.root = .relative then [] else [p.root.text]) ++ p.segments.map Segment.text

/-- Whether a list of texts does not come after another one, text by text. -/
def partsAtMost : List String → List String → Bool
  | [], _ => true
  | _ :: _, [] => false
  | a :: as, b :: bs => if a = b then partsAtMost as bs else decide (a < b)

/-- Whether `p` does not come after `q`. -/
def atMost (p q : Path) : Bool := partsAtMost p.parts q.parts

end Path

end TemplateRun
