/-
# `Token` — the parts of a written literal

A literal is cut into names, numbers, texts and symbols, and the ends and indents of its lines.
Some names are reserved.  A part that cannot be is a fault, known by its cause, and nothing is cut
behind it.  Each token knows its line and the brackets that are open behind it.
-/
import TemplateRun.Text.Quoted

namespace TemplateRun.Literal

/-! ## Faults -/

/-- The kinds of numbers that a fault tells apart. -/
inductive NumberKind where
  | decimal
  | hexadecimal
  | octal
  | binary
  | imaginary
deriving DecidableEq, Repr

def NumberKind.name : NumberKind → String
  | decimal => "decimal"
  | hexadecimal => "hexadecimal"
  | octal => "octal"
  | binary => "binary"
  | imaginary => "imaginary"

/-- Why a part cannot be. -/
inductive LexicalFault where
  | unterminatedText (line : Nat)
  | unterminatedLongText (line : Nat)
  /-- A character that no name has. -/
  | strangeCharacter (c : Char)
  | badNumber (kind : NumberKind)
  | badDigit (c : Char) (kind : NumberKind)
  | leadingZeros
  | tooNested
  | unmatched (closing : Char)
  /-- A bracket closes another one, which may be on a line before. -/
  | mismatched (closing opening : Char) (line : Option Nat)
  | neverClosed (opening : Char)
  /-- A backslash that is not at the end of its line. -/
  | strayBackslash
  /-- A backslash at the end of the last line. -/
  | unfinishedLine
  /-- A line goes back to where no line has begun. -/
  | unevenIndent
  /-- Lines whose indents compare one way or the other, as tabs are counted. -/
  | mixedIndent
  | tooIndented
deriving DecidableEq, Repr

namespace LexicalFault

def message : LexicalFault → String
  | unterminatedText line =>
    "unterminated string literal (detected at line " ++ toString line ++ ")"
  | unterminatedLongText line =>
    "unterminated triple-quoted string literal (detected at line " ++ toString line ++ ")"
  | strangeCharacter c =>
    let width := if c.toNat < 0x10000 then 4 else if c.toNat < 0x100000 then 5 else 6
    let digits := String.ofList ((Text.hex width c.toNat).map Char.toUpper)
    if Text.isPrintable c then "invalid character '" ++ c.toString ++ "' (U+" ++ digits ++ ")"
    else "invalid non-printable character U+" ++ digits
  | badNumber kind => "invalid " ++ kind.name ++ " literal"
  | badDigit c kind => "invalid digit '" ++ c.toString ++ "' in " ++ kind.name ++ " literal"
  | leadingZeros =>
    "leading zeros in decimal integer literals are not permitted; use an 0o prefix for octal " ++
      "integers"
  | tooNested => "too many nested parentheses"
  | unmatched closing => "unmatched '" ++ closing.toString ++ "'"
  | mismatched closing opening line =>
    "closing parenthesis '" ++ closing.toString ++ "' does not match opening parenthesis '" ++
      opening.toString ++ "'" ++ (line.map fun n => " on line " ++ toString n).getD ""
  | neverClosed opening => "'" ++ opening.toString ++ "' was never closed"
  | strayBackslash => "unexpected character after line continuation character"
  | unfinishedLine => "unexpected EOF while parsing"
  | unevenIndent => "unindent does not match any outer indentation level"
  | mixedIndent => "inconsistent use of tabs and spaces in indentation"
  | tooIndented => "too many levels of indentation"

/-- Whether the fault is seen although reading has gone wrong before it. -/
def isForemost : LexicalFault → Bool
  | neverClosed _ | strayBackslash | unfinishedLine | unevenIndent | mixedIndent | tooIndented =>
    false
  | _ => true

end LexicalFault

/-! ## Tokens -/

/-- What a token is. -/
inductive Part where
  | name (word : String)
  | reserved (word : String)
  | number (digits : List Char)
  /-- A text with its quotes and what stands before them. -/
  | text (source : List Char)
  | symbol (sign : String)
  | newline
  | indent
  | dedent
  | finish
  | broken (fault : LexicalFault)
deriving DecidableEq, Repr

/-- A bracket that is open, and its line. -/
abbrev OpenBracket := Char × Nat

def isPair (opening closing : Char) : Bool :=
  (opening = '(' && closing = ')') || (opening = '{' && closing = '}') ||
    (opening = '[' && closing = ']')

/-- A part at its place. -/
structure Token where
  part : Part
  /-- The line in which the part begins. -/
  line : Nat
  /-- The brackets that are open behind the part, the latest first. -/
  opened : List OpenBracket
  /-- Whether the end of the source had to be seen to know the end of the part. -/
  isLast : Bool
deriving DecidableEq, Repr

/-- Whether a part may go on with a character behind it, so that this one has to be looked at. -/
def Part.mayGoOn : Part → Bool
  | name _ | reserved _ | number _ => true
  | symbol sign => sign.length < 3
  | _ => false

/-- Names with a meaning of their own. -/
def reservedWords : List String :=
  ["False", "None", "True", "and", "as", "assert", "async", "await", "break", "class", "continue",
   "def", "del", "elif", "else", "except", "finally", "for", "from", "global", "if", "import", "in",
   "is", "lambda", "nonlocal", "not", "or", "pass", "raise", "return", "try", "while", "with",
   "yield"]

def Part.ofWord (word : String) : Part :=
  if word ∈ reservedWords then .reserved word else .name word

/-- Symbols, the longer ones first. -/
def symbols : List String :=
  ["**=", "//=", "<<=", ">>=", "...", "!=", "%=", "&=", "**", "*=", "+=", "-=", "->", "//", "/=",
   ":=", "<<", "<=", "<>", "==", ">=", ">>", "@=", "^=", "|="]

end TemplateRun.Literal
