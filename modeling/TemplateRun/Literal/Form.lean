/-
# `Form` — what the parts of a literal stand for together

A literal is written in a notation that has much more than literals: names, calls, operators,
conditions and comprehensions.  All of it is read, and only then is it asked whether the form has a
value (`valueOf`).  What has no value needs to be known just well enough to say what is wrong
with it: by the name of its kind, and by what may stand before an `=`.
-/
import TemplateRun.Literal.Token

namespace TemplateRun.Literal

/-- The numbers that a literal may write. -/
inductive Number where
  | integer (n : Nat)
  | real
  | imaginary
deriving DecidableEq, Repr

/-- What has been read. -/
inductive Form where
  /-- Nothing, where something may be left out. -/
  | absent
  | part (p : Part)
  | series (forms : List Form)
  /- Operands. -/
  | name (word : String)
  | number (n : Number)
  /-- One of the words `True`, `False` and `None`, or three dots. -/
  | constant (word : String)
  | text
  | bytes
  /-- A text with fields in it. -/
  | template
  | tuple (items : List Form)
  | set (items : List Form)
  | dict (entries : List Form)
  | generator
  | setComprehension
  | dictComprehension
  | member (parts : List Form)
  | call (callee : Form) (arguments : List Form)
  /- Operations. -/
  | signed (sign : String) (operand : Form)
  | combined (sign : String) (left right : Form)
  /-- Any other operation, and `not`, `and`, `or`. -/
  | operation (parts : List Form)
  | comparison (isMembership : Bool) (left : Form)
  | conditional (parts : List Form)
  | lambda (parts : List Form)
  | awaited
  | yielded
  | named
  | starred (form : Form)
  /- Entries and arguments. -/
  | entry (key value : Form)
  /-- What stands behind two stars. -/
  | spread
  | keyword
deriving Repr

namespace Form

def kindName : Form → String
  | name _ => "name"
  | constant word => if word = "..." then "ellipsis" else word
  | number _ | text | bytes => "literal"
  | template => "f-string expression"
  | tuple _ => "tuple"
  | set _ => "set display"
  | dict _ => "dict literal"
  | generator => "generator expression"
  | setComprehension => "set comprehension"
  | dictComprehension => "dict comprehension"
  | member _ => "attribute"
  | call _ _ => "function call"
  | comparison _ _ => "comparison"
  | conditional _ => "conditional expression"
  | lambda _ => "lambda"
  | awaited => "await expression"
  | yielded => "yield expression"
  | named => "named expression"
  | starred _ => "starred"
  | _ => "expression"

def toList : Form → List Form
  | series forms => forms
  | _ => []

mutual

/-- The first part of a form that may not stand before the `in` of a comprehension. -/
def badTarget? : Form → Option Form
  | name _ | member _ => none
  | tuple items => badTargetIn? items
  | starred form => badTarget? form
  | comparison isMembership left =>
    if isMembership then badTarget? left else none
  | form => some form

/-- The first such part of several forms. -/
def badTargetIn? : List Form → Option Form
  | [] => none
  | form :: rest => (badTarget? form).or (badTargetIn? rest)

end

mutual

/-- How many forms stand in one another. -/
def height : Form → Nat
  | absent | part _ => 0
  | series forms => heights forms
  | tuple parts | set parts | dict parts | member parts | operation parts | conditional parts
  | lambda parts => heights parts + 1
  | call callee arguments => max (height callee) (heights arguments) + 1
  | signed _ operand => height operand + 1
  | combined _ left right => max (height left) (height right) + 1
  | comparison _ left => height left + 1
  | starred form => height form + 1
  | entry key value => max (height key) (height value)
  | _ => 1

/-- The greatest height of forms. -/
def heights : List Form → Nat
  | [] => 0
  | form :: rest => max (height form) (heights rest)

end

end Form

end TemplateRun.Literal
