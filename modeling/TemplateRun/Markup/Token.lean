/-
# `Token` — where the tags of a marked-up text are

A tag is a `[`, then a lower-case letter, `#`, `/` or `@`, then anything up to the next `]`, with
no `[` in between.  The backslashes right before a bracket belong to it: an odd number of them
makes the tag literal text.  `tokens` cuts a text into the tags and all that stands around them.

A bracket opens a tag or not by what follows it alone (`opensTag`), because no tag holds another
opening bracket.
-/

namespace TemplateRun.Markup

/-! ## Tags -/

/-- Characters that may come first in a tag. -/
def startsTag (c : Char) : Bool :=
  ('a' ≤ c && c ≤ 'z') || c = '#' || c = '/' || c = '@'

/-- Whether the first bracket of the text is a closing one. -/
def closesFirst : List Char → Bool
  | [] => false
  | c :: rest => if c = ']' then true else if c = '[' then false else closesFirst rest

/-- Whether a `[` in front of the text opens a tag. -/
def opensTag : List Char → Bool
  | [] => false
  | c :: rest => startsTag c && closesFirst rest

/-! ## Tokens -/

/-- A run of `n` backslashes. -/
def backslashes (n : Nat) : List Char := List.replicate n '\\'

/-- A part of a marked-up text. -/
inductive Token where
  /-- A character that has nothing to do with tags. -/
  | char (c : Char)
  /-- A `[` that opens no tag, behind a run of backslashes. -/
  | bracket (run : Nat)
  /-- A tag behind a run of backslashes, its brackets left out. -/
  | tag (run : Nat) (body : List Char)
deriving DecidableEq, Repr

/-- The text that a token was cut from. -/
def Token.source : Token → List Char
  | .char c => [c]
  | .bracket run => backslashes run ++ ['[']
  | .tag run body => backslashes run ++ '[' :: (body ++ [']'])

/-- Where the cutting stands: behind a run of backslashes, or in a tag that such a run precedes,
what is read of the tag given from its end. -/
inductive Place where
  | text (run : Nat)
  | tag (run : Nat) (read : List Char)

/-- The text that is already behind a place and in no token yet. -/
def Place.held : Place → List Char
  | .text run => backslashes run
  | .tag run read => backslashes run ++ '[' :: read.reverse

/-- The tokens of a text that goes on from a place. -/
def tokensFrom : Place → List Char → List Token
  | place, [] => place.held.map .char
  | .text run, c :: rest =>
    if c = '\\' then tokensFrom (.text (run + 1)) rest
    else if c = '[' then
      if opensTag rest then tokensFrom (.tag run []) rest
      else .bracket run :: tokensFrom (.text 0) rest
    else (backslashes run).map .char ++ .char c :: tokensFrom (.text 0) rest
  | .tag run read, c :: rest =>
    if c = ']' then .tag run read.reverse :: tokensFrom (.text 0) rest
    else tokensFrom (.tag run (c :: read)) rest

def tokens (s : List Char) : List Token := tokensFrom (.text 0) s

end TemplateRun.Markup
