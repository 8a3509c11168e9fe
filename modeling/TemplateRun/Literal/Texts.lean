/-
# `Texts` — texts side by side

Texts that stand side by side are one text.  Letters in front of the quotes say what is in them:
bytes, fields, or backslashes that are nothing but backslashes.  Bytes and characters do not mix.
-/
import TemplateRun.Literal.Field
import TemplateRun.Literal.Form

namespace TemplateRun.Literal

/-- A text in quotes, taken apart. -/
structure QuotedText where
  /-- The letters in front, in small letters. -/
  marks : List Char
  body : List Char
deriving DecidableEq, Repr

namespace QuotedText

def isQuote (c : Char) : Bool := c = '\'' || c = '"'

/-- A text as it is written, taken apart. -/
def ofSource (source : List Char) : QuotedText :=
  let quoted := source.dropWhile fun c => !isQuote c
  let size := match quoted with
    | a :: b :: c :: _ => if a = b && b = c && 6 ≤ quoted.length then 3 else 1
    | _ => 1
  ⟨(source.takeWhile fun c => !isQuote c).map Char.toLower,
    (quoted.drop size).take (quoted.length - 2 * size)⟩

def isBytes (t : QuotedText) : Bool := 'b' ∈ t.marks

def hasFields (t : QuotedText) : Bool := 'f' ∈ t.marks

/-- Whether backslashes in the text are nothing else. -/
def isRaw (t : QuotedText) : Bool := 'r' ∈ t.marks || '\\' ∉ t.body

/-- Whether the characters of the text are sound, but for its fields. -/
def check (t : QuotedText) : Except TextFault Unit :=
  if t.isBytes then
    if t.body.all isAscii then if t.isRaw then .ok () else checkByteEscapes 0 t.body
    else .error .byteBeyondAscii
  else if t.isRaw || t.hasFields then .ok ()
  else checkEscapes 0 t.body

end QuotedText

/-- Whether texts go together behind others, of which it is known whether they are bytes.  `read`
reads the forms in fields. -/
def checkTexts (read : List Char → Except Fault Unit) :
    (isBytes : Option Bool) → List QuotedText → Except Fault Unit
  | _, [] => .ok ()
  | isBytes, t :: rest => do
    t.check.mapError fun fault => .illWritten (.text fault)
    if isBytes.any (· ≠ t.isBytes) then .error (.illWritten (.text .mixed))
    if t.hasFields then checkFields read t.isRaw t.body
    checkTexts read (some t.isBytes) rest

def textsOf (forms : List Form) : List QuotedText :=
  forms.filterMap fun
    | .part (.text source) => some (.ofSource source)
    | _ => none

def concatenate (read : List Char → Except Fault Unit) (forms : List Form) : Except Fault Form :=
  let texts := textsOf forms
  (checkTexts read none texts).map fun _ =>
    if texts.any QuotedText.hasFields then .template
    else if texts.any QuotedText.isBytes then .bytes
    else .text

end TemplateRun.Literal
