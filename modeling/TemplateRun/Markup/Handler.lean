/-
# `Handler` — the value in a handler tag

A tag whose name begins with `@` may carry a value: the name of a handler with arguments in
parentheses, or a literal by itself.  The arguments, or the literal, have to be the written form of
a value, and this is looked at when the tag is closed.  Where the notation is at fault, both the
literal and the whole value are told; else only the latter.
-/
import TemplateRun.Literal.Basic
import TemplateRun.Text.Blank
import TemplateRun.Text.Word

namespace TemplateRun.Markup

/-- The part of a value that has to be a literal: all of it, unless it is the name of a handler,
with or without arguments, when it is the arguments. -/
def literalOf (value : List Char) : List Char :=
  let value := Text.trim value
  let behind := value.dropWhile fun c => Text.isWordCharacter c || c = '.'
  if behind = [] then "()".toList
  else if behind.head? = some '(' && behind.getLast? = some ')' && '\n' ∉ behind then behind
  else value

/-- A value that is not well-formed, and why. -/
structure IllFormed where
  value : List Char
  fault : Literal.Fault
deriving DecidableEq, Repr

def IllFormed.message (i : IllFormed) : String :=
  let value := Text.quote (String.ofList i.value)
  let place := match i.fault with
    | .illWritten _ => Text.quote (String.ofList (literalOf i.value)) ++ " in " ++ value
    | _ => value
  "error parsing " ++ place ++ "; " ++ i.fault.message

/-- Whether the value of a handler tag is well-formed. -/
def readValue (value : List Char) : Except IllFormed Unit :=
  (Literal.check (literalOf value)).mapError (IllFormed.mk value)

end TemplateRun.Markup
