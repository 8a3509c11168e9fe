/-
# `Literal` — values as they are written

A value may be written down: a number, a text, one of a few words, or a tuple, a set or a dictionary
of such values.  The notation has more than that, and what has no value is refused, as is what is
not written in the notation at all.
-/
import TemplateRun.Literal.Lexer
import TemplateRun.Literal.Parser
import TemplateRun.Literal.Texts

namespace TemplateRun.Literal

/-! ## Sources -/

/-- The fault of a form in the field of a text. -/
def Fault.within : Fault → Fault
  | .illWritten (.lexical fault) => .illWritten (.lexical fault)
  | .illWritten (.inField fault) => .illWritten (.inField fault)
  | .illWritten fault => .illWritten (.inField fault)
  | fault => fault

/-- Reads the form in the field of a text; `depth` bounds how deep texts with fields may stand in
one another. -/
def readFieldForm : (depth : Nat) → List Char → Except Fault Unit
  | 0, _ => .error .tooDeep
  | depth + 1, s =>
    ((readTokens (concatenate (readFieldForm depth)) .field (tokens (s ++ ['\n'])).toArray).map
      fun _ => ()).mapError Fault.within

def readForm (source : List Char) : Except Fault Form :=
  let source := unifyLineEnds source
  readTokens (concatenate (readFieldForm source.length)) .source (tokens source).toArray

/-! ## Values -/

/-- What it takes to know of a value: the name of its kind, if it can change. -/
abbrev Changing := Option String

/-- The least number that is too great to be taken for a real one. -/
def realLimit : Nat := Nat.pow 2 1024 - Nat.pow 2 970

/-- The number that stands in a form, with a sign or without. -/
def number? : Form → Option Number
  | .number n => some n
  | .signed sign (.number n) => if sign = "+" || sign = "-" then some n else none
  | _ => none

/-- Whether two numbers can be added up to one value: a real one and an imaginary one. -/
def checkSum : Option Number → Form → Except Fault Changing
  | some (.integer n), .number .imaginary => if realLimit ≤ n then .error .tooGreat else .ok none
  | some .real, .number .imaginary => .ok none
  | _, _ => .error (.valueless false)

mutual

/-- What is known of the value of a form, if it has one. -/
def valueOf : Form → Except Fault Changing
  | .number _ | .text | .bytes | .constant _ => .ok none
  | .signed sign (.number n) =>
    if (number? (.signed sign (.number n))).isSome then .ok none else .error (.valueless false)
  | .combined sign left right =>
    if sign = "+" || sign = "-" then checkSum (number? left) right else .error (.valueless false)
  | .tuple items => valueOfItems items
  | .set items => do
    checkMembers items
    return some "set"
  | .dict entries => do
    checkEntries entries
    return some "dict"
  | .call (.name word) [] => if word = "set" then .ok (some "set") else .error (.valueless false)
  | _ => .error (.valueless false)

/-- What is known of a tuple; it can change if one of its items can. -/
def valueOfItems : List Form → Except Fault Changing
  | [] => .ok none
  | item :: rest => do
    let first ← valueOf item
    return first.or (← valueOfItems rest)

/-- Whether forms can be the members of a set. -/
def checkMembers : List Form → Except Fault Unit
  | [] => .ok ()
  | item :: rest => do
    match ← valueOf item with
    | some kind => .error (.unhashable kind)
    | none => checkMembers rest

/-- Whether forms can be the entries of a dictionary. -/
def checkEntries : List Form → Except Fault Unit
  | [] => .ok ()
  | .entry key value :: rest => do
    let kind ← valueOf key
    let _ ← valueOf value
    match kind with
    | some kind => .error (.unhashable kind)
    | none => checkEntries rest
  | _ :: _ => .error (.valueless true)

end

def heightLimit : Nat := 2940

/-- Whether a value is written. -/
def check (source : List Char) : Except Fault Unit := do
  if '\x00' ∈ source then .error .nullCharacter
  let form ← readForm (source.dropWhile fun c => c = ' ' || c = '\t')
  if heightLimit < form.height then .error .tooHigh
  let _ ← valueOf form

end TemplateRun.Literal
