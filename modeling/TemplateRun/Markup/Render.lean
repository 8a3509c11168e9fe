/-
# `Render` — what a marked-up text shows

A tag behind an even number of backslashes styles the text behind it, up to where it is closed, and
does not show; behind an odd number it is text.  Of the backslashes before a tag every second one
shows, and before any other opening bracket all but one.

Three things can go wrong.  A closing tag may close nothing: `[/]` needs an open tag, and `[/name]`
one that asks for the same, wherever in the stack it is.  A number in a color may not be readable.
And the value of a handler tag that is closed may be ill-formed.  The first of these counts.  But
what a tag says behind a `=` is read for numbers last, when the text is shown, and only if the tag
styles anything of it (`StyledText.styles`).
-/
import TemplateRun.Markup.Handler
import TemplateRun.Markup.Style
import TemplateRun.Markup.Token
import TemplateRun.Text.Trace

namespace TemplateRun.Markup

/-! ## Tags -/

/-- The body of a token that is a tag in force. -/
def Token.style? : Token → Option (List Char)
  | .tag run body => if run % 2 = 0 then some body else none
  | _ => none

/-- What the text of a tag says before a `=`. -/
def tagName (body : List Char) : List Char := body.takeWhile (· ≠ '=')

/-- What the text of a tag says behind a `=`, if there is one. -/
def tagValue? (body : List Char) : Option (List Char) := (body.dropWhile (· ≠ '=')).tail?

/-- A tag that is open. -/
structure OpenTag where
  /-- The one name of what it asks for. -/
  name : List Char
  value : Option (List Char)
  /-- How many characters are shown before it. -/
  start : Nat
deriving DecidableEq, Repr

namespace OpenTag

/-- The tag with this text, when it is opened. -/
def ofBody (start : Nat) (body : List Char) : Except Text.NumeralFault OpenTag :=
  (canonicalName (tagName body)).map fun name => ⟨name, tagValue? body, start⟩

/-- All that the tag asks for. -/
def style (tag : OpenTag) : List Char := tag.name ++ (tag.value.map (' ' :: ·)).getD []

/-- Whether the tag may be closed: the value of a handler has to be well-formed. -/
def close (tag : OpenTag) : Except IllFormed Unit :=
  match tag.name.head?, tag.value with
  | some '@', some (c :: rest) => readValue (c :: rest)
  | _, _ => .ok ()

end OpenTag

/-! ## Defects -/

/-- What keeps a marked-up text from being shown. -/
inductive Defect where
  /-- A closing tag closes nothing. -/
  | unopened (body : List Char) (position : Nat)
  /-- A number in a color is not readable. -/
  | number (fault : Text.NumeralFault)
  | illFormed (value : IllFormed)
deriving DecidableEq, Repr

/-- What a closing tag asks to be closed; nothing, if it closes the latest. -/
def closedName (body : List Char) : List Char := Text.trim (tagName body).tail

def Defect.message : Defect → String
  | unopened body position =>
    if closedName body = [] then
      "closing tag '[/]' at position " ++ toString position ++ " has nothing to close"
    else
      "closing tag '[" ++ String.ofList body ++ "]' at position " ++ toString position ++
        " doesn't match any open tag"
  | number fault => fault.message
  | illFormed value => value.message

def Defect.kindName : Defect → String
  | number _ => "ValueError"
  | unopened _ _ | illFormed _ => "MarkupError"

/-! ## Styled text -/

/-- A stretch of a text and what is asked for it. -/
structure Span where
  start : Nat
  stop : Nat
  style : List Char
deriving DecidableEq, Repr

/-- A text with what is asked for its stretches. -/
structure StyledText where
  chars : List Char
  /-- The stretches from the left; of those that start together the first is closed last. -/
  spans : List Span
deriving DecidableEq, Repr

namespace StyledText

/-- A text for which nothing is asked. -/
def plain (s : List Char) : StyledText := ⟨Text.traces s, []⟩

/-- The span of the text that is so many characters further on. -/
def shift (count : Nat) (span : Span) : Span :=
  { span with start := count + span.start, stop := count + span.stop }

/-- Two texts, one behind the other. -/
def append (t u : StyledText) : StyledText :=
  ⟨t.chars ++ u.chars, t.spans ++ u.spans.map (shift t.chars.length)⟩

/-- Texts with blanks between them. -/
def joined : List StyledText → StyledText
  | [] => plain []
  | [t] => t
  | t :: rest => (t.append (plain [' '])).append (joined rest)

/-- Whether a span counts.  One that styles no character does not, if the text is taken apart in
order to be shown, which it is at line ends and, on a single line, at tabs; and a line end is no
character of a line. -/
def styles (t : StyledText) (span : Span) : Bool :=
  let part := (t.chars.take span.stop).drop span.start
  if '\n' ∈ t.chars then part.any (· ≠ '\n')
  else if '\t' ∈ t.chars then part ≠ []
  else true

/-- The number in a span that cannot be read, if there is one. -/
def numberFault? (span : Span) : Option Text.NumeralFault :=
  match Style.ofText span.style with
  | .error (.component fault) => some fault
  | _ => none

/-- The characters of the text, if all that is asked for can be read. -/
def shownChars (t : StyledText) : Except Defect (List Char) :=
  match (t.spans.filter t.styles).findSome? numberFault? with
  | some fault => .error (.number fault)
  | none => .ok t.chars

end StyledText

/-! ## Reading tags -/

/-- What has been read of a marked-up text. -/
structure Reading where
  /-- The open tags, the latest first. -/
  opened : List OpenTag
  /-- What closed tags style, the latest closed first. -/
  spans : List Span
  /-- How many characters are shown. -/
  length : Nat
deriving DecidableEq, Repr

namespace Reading

def blank : Reading := ⟨[], [], 0⟩

/-- The open tag that a closing tag closes, if there is one. -/
def closed? (r : Reading) (body : List Char) : Except Defect (Option OpenTag) :=
  if closedName body = [] then .ok r.opened.head?
  else match canonicalName (closedName body) with
    | .ok name => .ok (r.opened.find? (·.name = name))
    | .error fault => .error (.number fault)

/-- The span of a tag that ends here. -/
def spanOf (r : Reading) (tag : OpenTag) : Span := ⟨tag.start, r.length, tag.style⟩

/-- What is read behind a tag in force at a position. -/
def tag (r : Reading) (position : Nat) (body : List Char) : Except Defect Reading :=
  if body.head? = some '/' then
    match r.closed? body with
    | .error defect => .error defect
    | .ok none => .error (.unopened body position)
    | .ok (some tag) => do
      tag.close.mapError .illFormed
      return { r with opened := r.opened.erase tag, spans := r.spanOf tag :: r.spans }
  else match OpenTag.ofBody r.length body with
    | .ok tag => .ok { r with opened := tag :: r.opened }
    | .error fault => .error (.number fault)

/-- All spans, where those of open tags end here, from the left. -/
def allSpans (r : Reading) : List Span :=
  ((r.opened.reverse.map r.spanOf) ++ r.spans).mergeSort fun a b => a.start ≤ b.start

end Reading

/-- The characters that a token shows. -/
def Token.shown : Token → List Char
  | .char c => [c]
  | .bracket run => backslashes (run - 1) ++ ['[']
  | .tag run body =>
    backslashes (run / 2) ++ if run % 2 = 0 then [] else '[' :: (body ++ [']'])

/-- What is read behind tokens, the first of them at a position. -/
def readTokens : Reading → (position : Nat) → List Token → Except Defect Reading
  | r, _, [] => .ok r
  | r, position, token :: rest =>
    let next := position + token.source.length
    let r := { r with length := r.length + (Text.traces token.shown).length }
    match token.style? with
    | none => readTokens r next rest
    | some body => do readTokens (← r.tag (next - (body.length + 2)) body) next rest

/-- What a marked-up text is. -/
def render (s : List Char) : Except Defect StyledText := do
  let r ← readTokens .blank 0 (tokens s)
  return ⟨Text.traces ((tokens s).flatMap Token.shown), r.allSpans⟩

end TemplateRun.Markup
