/-
# `Pattern` — what stretches of a text look like

A pattern fits a text at a place, up to another one.  It may do so in several ways, which are tried
in order: the first of two alternatives before the second, and more repetitions before fewer, unless
they are reluctant.  A way counts only if what is behind the pattern fits too, so `fit` is told what
that is.  On the way it marks the stretches that marked patterns fit.

`marks` looks for a pattern in a whole text, from the left, each time behind the last stretch found.
-/

namespace TemplateRun.Text

/-- A stretch of a text. -/
structure Stretch where
  start : Nat
  stop : Nat
deriving DecidableEq, Repr

/-- What a stretch of a text looks like. -/
inductive Pattern where
  /-- A character of a kind. -/
  | char (accepts : Char → Bool)
  | both (first second : Pattern)
  | either (first second : Pattern)
  /-- A pattern so many times in a row, as often as possible unless it `isReluctant`. -/
  | repeated (least : Nat) (most : Option Nat) (isReluctant : Bool) (pattern : Pattern)
  /-- What the pattern fits is marked. -/
  | marked (pattern : Pattern)
  /-- No character of a kind is before this place. -/
  | notBehind (rejects : Char → Bool)
  /-- Whether a character of a kind is before this place is, or is not, as it is behind it. -/
  | edge (accepts : Char → Bool) (isEdge : Bool)
  /-- Nothing is asked for. -/
  | blank

/-- A place in a text, and what has been marked before it. -/
structure Place where
  position : Nat
  /-- The character before it. -/
  before : Option Char
  /-- The characters behind it. -/
  rest : List Char
  marks : List Stretch
deriving DecidableEq, Repr

namespace Pattern

/-! ## Fitting -/

/-- Fits a pattern several times in a row, and then what is `behind`. -/
def fitTimes (fit : Place → (Place → Option Place) → Option Place) (isReluctant : Bool) :
    (least most : Nat) → Place → (behind : Place → Option Place) → Option Place
  | 0, 0, place, behind => behind place
  | _ + 1, 0, _, _ => none
  | least, most + 1, place, behind =>
    let more := fun _ : Unit =>
      fit place fun next => fitTimes fit isReluctant (least - 1) most next behind
    if least ≠ 0 then more ()
    else if isReluctant then (behind place).orElse more
    else (more ()).orElse fun _ => behind place

/-- The place behind a pattern that fits at a place, if what is `behind` fits there.  A repetition
without a bound has an end, since the text has. -/
def fit : Pattern → Place → (behind : Place → Option Place) → Option Place
  | char accepts, place, behind =>
    match place.rest with
    | [] => none
    | c :: rest =>
      if accepts c then behind ⟨place.position + 1, some c, rest, place.marks⟩ else none
  | both first second, place, behind => first.fit place fun next => second.fit next behind
  | either first second, place, behind =>
    (first.fit place behind).orElse fun _ => second.fit place behind
  | repeated least most isReluctant pattern, place, behind =>
    fitTimes pattern.fit isReluctant least (most.getD place.rest.length) place behind
  | marked pattern, place, behind =>
    pattern.fit place fun next =>
      behind { next with marks := ⟨place.position, next.position⟩ :: next.marks }
  | notBehind rejects, place, behind => if place.before.any rejects then none else behind place
  | edge accepts isEdge, place, behind =>
    if (place.before.any accepts != place.rest.head?.any accepts) = isEdge then behind place
    else none
  | blank, place, behind => behind place

/-! ## Searching -/

/-- What a pattern marks in a text that goes on behind a place, from a position on. -/
def marksFrom (pattern : Pattern) : (free position : Nat) → (before : Option Char) →
    List Char → List Stretch
  | _, _, _, [] => []
  | free, position, before, c :: rest =>
    if position < free then marksFrom pattern free (position + 1) (some c) rest
    else match pattern.fit ⟨position, before, c :: rest, []⟩ some with
      | none => marksFrom pattern free (position + 1) (some c) rest
      | some found =>
        found.marks ++ marksFrom pattern found.position (position + 1) (some c) rest

/-- What a pattern marks in a text. -/
def marks (pattern : Pattern) (text : List Char) : List Stretch := marksFrom pattern 0 0 none text

/-! ## Common patterns -/

def row : List Pattern → Pattern
  | [] => blank
  | [pattern] => pattern
  | pattern :: rest => both pattern (row rest)

def oneOf : List Pattern → Pattern
  | [] => char fun _ => false
  | [pattern] => pattern
  | pattern :: rest => either pattern (oneOf rest)

/-- The characters of a text in a row. -/
def exactly (s : String) : Pattern := row (s.toList.map fun c => char (· = c))

def optional (pattern : Pattern) : Pattern := repeated 0 (some 1) false pattern

/-- A pattern as often as it is there. -/
def many (pattern : Pattern) : Pattern := repeated 0 none false pattern

/-- A pattern once or more often. -/
def several (pattern : Pattern) : Pattern := repeated 1 none false pattern

/-- A pattern from `least` to `most` times. -/
def times (least most : Nat) (pattern : Pattern) : Pattern :=
  repeated least (some most) false pattern

end Pattern

end TemplateRun.Text
