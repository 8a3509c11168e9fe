/-
# `Escape` — text that shows no tags

Escaping doubles the backslashes before every tag and adds one, so that their number is odd and
the tag is literal.  A text that ends in a single backslash gets a second one, which keeps it from
running into a tag that the program writes behind it.
-/
import TemplateRun.Markup.Token

namespace TemplateRun.Markup

/-- The escaped text behind a run of backslashes, which are written already. -/
def escapeFrom : (run : Nat) → List Char → List Char
  | _, [] => []
  | run, c :: rest =>
    if c = '\\' then c :: escapeFrom (run + 1) rest
    else if c = '[' ∧ opensTag rest then backslashes (run + 1) ++ c :: escapeFrom 0 rest
    else c :: escapeFrom 0 rest

/-- Whether a text ends in one backslash and not in two. -/
def endsInLoneBackslash (s : List Char) : Bool :=
  s.getLast? = some '\\' && s.dropLast.getLast? ≠ some '\\'

def escapeChars (s : List Char) : List Char :=
  let escaped := escapeFrom 0 s
  if endsInLoneBackslash escaped then escaped ++ ['\\'] else escaped

/-- The text with its tags made literal. -/
def escape (s : String) : String := String.ofList (escapeChars s.toList)

end TemplateRun.Markup
