/-
# `Rule` — what a grammar is made of

A grammar says for each of its rules in which ways it can be read.  The ways are tried in order, and
the first that fits is the one that counts.  A way is a row of items; it may look ahead, leave
something out, or commit itself, after which no other way is tried.  What the items have read is
then made into one form, or into nothing, or it is refused with a fault.

Some ways are there only to say what is wrong with a source.  They are tried once it is known that
something is.
-/
import TemplateRun.Literal.Fault
import TemplateRun.Literal.Form

namespace TemplateRun.Literal

/-! ## Rules -/

/-- The rules of the notation. -/
inductive Rule where
  /- Where reading starts. -/
  | source | newlines | field
  /- Expressions and rows of them. -/
  | expressions | moreExpressions | moreExpression | expression | plainExpression
  | yielding | starExpressions | moreStarExpressions | moreStarExpression | starExpression
  | members | memberSeries | member | naming | namedExpression
  /- Operations, from the loosest to the tightest. -/
  | disjunction | moreConjunctions | moreConjunction
  | conjunction | moreInversions | moreInversion | inversion
  | comparison | moreComparisons | moreComparison
  | union | exclusion | intersection | shift | sum | term | factor | power | awaited | primary
  /- Operands. -/
  | atom | inBrackets | inBraces | group | groupContent | texts | textSeries
  | tuple | tupleContent | set | dict | entries | entrySeries | entry | keyedEntry
  /- Comprehensions. -/
  | clauses | clauseSeries | clause | conditions | condition
  | generator | generatorItem | setComprehension | dictComprehension
  /- Calls. -/
  | arguments | argumentList | argumentSeries | argument | plainArgument | keywordTail
  | keywords | starSeries | doubleStarSeries | starred | keywordOrStar | keywordOrDoubleStar
  /- Targets. -/
  | targets | moreTargets | moreTarget | tupleTargets | someTargets
  | target | starredTarget | namedTarget | atomTarget | primaryTarget | goesOn
  /- Lambdas. -/
  | lambda | parameters | parameterList | defaultValue | parameter
  | bareParameter | bareParameters | someBareParameters
  | presetParameter | presetParameters | somePresetParameters
  | anyParameter | anyParameters | someAnyParameters
  | bareSlash | presetSlash | anySlash | starParameters | doubleStarParameter | bareStarNext
  /- Refusals. -/
  | badExpression | bareCall | badNaming | badComprehension | badDictComprehension | badGroup
  | badEntries | badEntry | badArguments | badKeyword | badTarget
  | badParameters | presetBefore | parameterNames | badStar | badStarEnd | badStarComma
  | badDoubleStar | badDefault
  /- What refusals look for. -/
  | looseStart | elseOrColon | assigning | unassignable | openingMark | entryEnd | argumentEnd
  | constantWord | keywordStart | restOfArguments | parameterMark
deriving DecidableEq, Hashable, Repr

/-- The classes of tokens that a way may ask for. -/
inductive TokenClass where
  | name
  /-- A name that is a word of the notation elsewhere. -/
  | looseWord
  | reserved (word : String)
  | symbol (sign : String)
  | number
  | text
  | newline
  | finish
deriving DecidableEq, Repr

/-- A token or what a rule reads. -/
inductive Piece where
  | token (c : TokenClass)
  | rule (r : Rule)
deriving DecidableEq, Repr

/-- One item of a way. -/
inductive Item where
  | one (p : Piece)
  /-- A piece that may be left out. -/
  | perhaps (p : Piece)
  | ahead (p : Piece)
  | notAhead (p : Piece)
  /-- From here on no other way is tried. -/
  | commit
deriving DecidableEq, Repr

/-- What comes of the forms that a way has read. -/
inductive Outcome where
  | form (f : Form)
  /-- The rule cannot be read, and no other way is tried. -/
  | nothing
  | fault (f : Fault)

/-- One way to read a rule. -/
structure Way where
  items : List Item
  /-- Whether the way is tried only to say what is wrong. -/
  isRefusal : Bool
  /-- What comes of it, from how many brackets are open and the forms of the pieces in order. -/
  build : (depth : Nat) → List Form → Outcome

/-- How a rule is read. -/
inductive Ways where
  /-- In the first way that fits. -/
  | first (ways : List Way)
  /-- In the first way that fits, and then on as long as another does, which is given the form so
  far. -/
  | growing (seed growth : List Way)
  /-- In the first way that fits, as often as it does, at least once if need be. -/
  | repeated (atLeastOnce : Bool) (ways : List Way)
  /-- A piece, and more of them with commas between. -/
  | separated (piece : Piece)

/-! ## Writing ways -/

namespace Item

def of (r : Rule) : Item := .one (.rule r)

def sign (s : String) : Item := .one (.token (.symbol s))

def word (s : String) : Item := .one (.token (.reserved s))

def name : Item := .one (.token .name)

/-- A rule that may be left out. -/
def perhapsOf (r : Rule) : Item := .perhaps (.rule r)

/-- A symbol that may be left out. -/
def perhapsSign (s : String) : Item := .perhaps (.token (.symbol s))

end Item

namespace Way

/-- A way that makes a form of what it reads. -/
def make (items : List Item) (f : List Form → Form) : Way :=
  ⟨items, false, fun _ forms => .form (f forms)⟩

/-- A way whose form is that of its first piece. -/
def pass (items : List Item) : Way := make items fun forms => forms.headD .absent

/-- A way whose form is that of its second piece. -/
def second (items : List Item) : Way := make items fun forms => forms.tail.headD .absent

/-- A way that ends in a fault. -/
def refuse (items : List Item) (f : List Form → FormFault) : Way :=
  ⟨items, false, fun _ forms => .fault (.illWritten (.form (f forms)))⟩

/-- A rule that is only there to say what is wrong. -/
def refusal (r : Rule) : Way := ⟨[.of r], true, fun _ _ => .nothing⟩

end Way

end TemplateRun.Literal
