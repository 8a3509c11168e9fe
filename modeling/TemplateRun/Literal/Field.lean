/-
# `Field` — texts with fields in them

A field stands between braces: a form, then perhaps an `=`, a letter that says how to convert it,
and behind a colon how to show it, where there may be fields again, but in those none.  A brace that
stands twice is a character of the text.  Where the form ends is found by counting brackets, without
reading it; it is read then, within brackets of its own.
-/
import TemplateRun.Literal.Escape

namespace TemplateRun.Literal

/-! ## Text between fields -/

/-- A text up to its next field, or a brace that stands twice. -/
structure Stretch where
  /-- The characters, of two braces the first. -/
  chars : List Char
  rest : List Char
  /-- Whether two braces have ended it. -/
  isDoubled : Bool

/-- A stretch with more characters before it. -/
def Stretch.behind (chars : List Char) (s : Stretch) : Stretch :=
  { s with chars := chars ++ s.chars }

/-- The text up to the next field.  Braces may stand twice only at the outermost level; those of a
character's name are passed over, of which `inName` tells. -/
def takeStretch (isRaw isOuter : Bool) : (inName : Bool) → List Char → Except FieldFault Stretch
  | _, [] => .ok ⟨[], [], false⟩
  | true, c :: rest => (takeStretch isRaw isOuter (c ≠ '}') rest).map (·.behind [c])
  | false, '\\' :: 'N' :: '{' :: rest =>
    if isRaw then (takeStretch isRaw isOuter false ('{' :: rest)).map (·.behind ['\\', 'N'])
    else (takeStretch isRaw isOuter true rest).map (·.behind ['\\', 'N', '{'])
  | false, '\\' :: 'N' :: c :: rest =>
    if isRaw then (takeStretch isRaw isOuter false (c :: rest)).map (·.behind ['\\', 'N'])
    else (takeStretch isRaw isOuter false rest).map (·.behind ['\\', 'N', c])
  | false, '\\' :: c :: rest =>
    if isRaw || c = '{' || c = '}' then
      (takeStretch isRaw isOuter false (c :: rest)).map (·.behind ['\\'])
    else (takeStretch isRaw isOuter false rest).map (·.behind ['\\', c])
  | false, c :: rest =>
    if c = '{' || c = '}' then
      if isOuter && rest.head? = some c then .ok ⟨[c], rest.tail, true⟩
      else if isOuter && c = '}' then .error .loneBrace
      else .ok ⟨[], c :: rest, false⟩
    else (takeStretch isRaw isOuter false rest).map (·.behind [c])

/-! ## The form in a field -/

/-- Where the search for the end of a form stands. -/
structure Search where
  /-- The quote of the text that is gone through, and whether it is a long one. -/
  quote : Option (Char × Bool)
  /-- The brackets that are open, the latest first. -/
  opened : List Char

def endsForm (c : Char) : Bool := c = '!' || c = ':' || c = '}' || c = '=' || c = '<' || c = '>'

/-- The form of a field with more characters before it. -/
def prepend (chars : List Char) (r : List Char × List Char) : List Char × List Char :=
  (chars ++ r.1, r.2)

def fieldNestingLimit : Nat := 200

/-- The form that a field begins with, and what is left; it may end with the text.  `fuel` bounds
how many characters are left. -/
def takeForm : (fuel : Nat) → Search → List Char → Except FieldFault (List Char × List Char)
  | 0, _, s => .ok ([], s)
  | _, ⟨some _, _⟩, [] => .error .unterminatedText
  | _, ⟨none, bracket :: _⟩, [] => .error (.unmatched bracket)
  | _, ⟨none, []⟩, [] => .ok ([], [])
  | fuel + 1, ⟨quote, opened⟩, c :: rest =>
    if c = '\\' then .error .backslash
    else match quote with
      | some (q, isLong) =>
        if c = q && !isLong then (takeForm fuel ⟨none, opened⟩ rest).map (prepend [c])
        else if c = q && rest.take 2 = [q, q] then
          (takeForm fuel ⟨none, opened⟩ (rest.drop 2)).map (prepend [q, q, q])
        else (takeForm fuel ⟨quote, opened⟩ rest).map (prepend [c])
      | none =>
        if c = '\'' || c = '"' then
          if rest.take 2 = [c, c] then
            (takeForm fuel ⟨some (c, true), opened⟩ (rest.drop 2)).map (prepend [c, c, c])
          else (takeForm fuel ⟨some (c, false), opened⟩ rest).map (prepend [c])
        else if c = '(' || c = '[' || c = '{' then
          if fieldNestingLimit ≤ opened.length then .error .tooNested
          else (takeForm fuel ⟨none, c :: opened⟩ rest).map (prepend [c])
        else if c = '#' then .error .comment
        else if opened = [] && endsForm c then
          if rest.head? = some '=' && (c = '!' || c = '=' || c = '<' || c = '>') then
            (takeForm fuel ⟨none, []⟩ rest.tail).map (prepend [c, '='])
          else if c = '<' || c = '>' then (takeForm fuel ⟨none, []⟩ rest).map (prepend [c])
          else .ok ([], c :: rest)
        else if c = ')' || c = ']' || c = '}' then
          match opened with
          | [] => .error (.unmatched c)
          | o :: opened =>
            if isPair o c then (takeForm fuel ⟨none, opened⟩ rest).map (prepend [c])
            else .error (.mismatched c o)
        else (takeForm fuel ⟨none, opened⟩ rest).map (prepend [c])

/-- Whether a character is a blank between parts. -/
def isFieldBlank (c : Char) : Bool := c = ' ' || c = '\t' || c = '\n' || c = '\x0c'

/-- Whether a character is a blank behind an `=`. -/
def isGap (c : Char) : Bool := c = ' ' || ('\t' ≤ c && c ≤ '\x0d')

/-- What is left of a field behind its form and an `=`. -/
def skipEquals : List Char → List Char
  | '=' :: rest => rest.dropWhile isGap
  | s => s

/-- What is left of a field behind the letter that says how to convert. -/
def skipConversion : List Char → Except FieldFault (List Char)
  | '!' :: c :: rest =>
    if c = 's' || c = 'r' || c = 'a' then .ok rest else .error .badConversion
  | s => .ok s

/-! ## Fields -/

/-- What is left behind a field, from behind its brace.  `read` reads the form in it, and
`readShowing` what stands behind its colon. -/
def readField (read : List Char → Except Fault Unit)
    (readShowing : List Char → Except Fault (List Char)) (s : List Char) :
    Except Fault (List Char) := do
  let fault (f : FieldFault) : Fault := .illWritten (.field f)
  let (form, rest) ← (takeForm (s.length + 1) ⟨none, []⟩ s).mapError fault
  if rest = [] then .error (fault .unclosed)
  if form.all isFieldBlank then
    .error (fault (match rest with
      | c :: _ => if c = '!' || c = ':' || c = '=' then .blankBefore c else .blank
      | [] => .blank))
  read ('(' :: (form ++ [')']))
  let rest ← (skipConversion (skipEquals rest)).mapError fault
  let rest ← match rest with
    | ':' :: [] => .error (fault .unclosed)
    | ':' :: rest => readShowing rest
    | rest => .ok rest
  match rest with
  | '}' :: rest => return rest
  | _ => .error (fault .unclosed)

/-- How deep fields may stand in what says how to show another. -/
def fieldDepth : Nat := 2

/-- What is left behind a text with fields, at a level of them.  `fuel` bounds how many characters
are left. -/
def readFields (read : List Char → Except Fault Unit) (isRaw : Bool) :
    (fuel level : Nat) → List Char → Except Fault (List Char)
  | 0, _, s => .ok s
  | fuel + 1, level, s => do
    let fault (f : FieldFault) : Fault := .illWritten (.field f)
    let stretch ← (takeStretch isRaw (level = 0) false s).mapError fault
    if !isRaw then (checkEscapes 0 stretch.chars).mapError fun f => .illWritten (.text f)
    if stretch.isDoubled then readFields read isRaw fuel level stretch.rest
    else match stretch.rest with
      | '{' :: rest =>
        if fieldDepth ≤ level then .error (fault .tooDeep)
        else
          let rest ← readField read (readFields read isRaw fuel (level + 1)) rest
          readFields read isRaw fuel level rest
      | rest => if level ≠ 0 && rest = [] then .error (fault .unclosed) else return rest

def checkFields (read : List Char → Except Fault Unit) (isRaw : Bool) (s : List Char) :
    Except Fault Unit :=
  (readFields read isRaw (s.length + 1) 0 s).map fun _ => ()

end TemplateRun.Literal
