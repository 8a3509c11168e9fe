/-
# `Highlight` — what stands out in a record

The values, numbers, paths and addresses in the text of a record, and some words besides, are set
off in color where there is color.  Where there is none nothing of it is seen, except that what
stands out is measured by itself.
-/
import TemplateRun.Text.Hexadecimal
import TemplateRun.Text.Pattern
import TemplateRun.Text.Word

namespace TemplateRun.Console

open Text Pattern

/-! ## Characters -/

/-- One of the characters of a text. -/
def among (s : String) : Pattern := char s.toList.contains

/-- A word character, or one of the others. -/
def wordOr (others : String) : Pattern :=
  char fun c => isWordCharacter c || others.toList.contains c

def asciiDigit : Pattern := char Char.isDigit

def hexDigit : Pattern := char isHexDigit

/-- Whether a word begins or ends here. -/
def wordEdge : Pattern := edge isWordCharacter true

/-- No word goes on here. -/
def noWordBefore : Pattern := notBehind isWordCharacter

/-! ## Tags and attributes -/

/-- Everything from an opening angle bracket to the last closing one, with its name. -/
def tagPattern : Pattern :=
  row [marked (exactly "<"), marked (many (wordOr "-.:|")), marked (many (char fun _ => true)),
    marked (exactly ">")]

/-- A name and a value with an equals sign between them. -/
def attributePattern : Pattern :=
  row [marked (times 1 50 (wordOr "")), exactly "=",
    optional (marked (row [optional (exactly "\""), several (wordOr ""), optional (exactly "\"")]))]

/-- A bracket of another kind. -/
def bracketPattern : Pattern := marked (among "][\x7b\x7d()")

/-! ## Addresses -/

/-- Groups of characters, `count` of them with `between` behind each, and one more. -/
def groups (count : Nat) (between : String) (group : Pattern) : Pattern :=
  row [times count count (row [group, exactly between]), group]

/-- Four decimal numbers. -/
def dottedAddress : Pattern := groups 3 "." (times 1 3 asciiDigit)

/-- Groups with one colon or two between them. -/
def colonAddress : Pattern :=
  row [times 1 7 (row [times 1 4 hexDigit, exactly ":", optional (exactly ":")]),
    times 1 4 hexDigit]

/-- The address of a device with so many bytes. -/
def deviceAddress (bytes : Nat) : Pattern :=
  oneOf [groups (bytes - 1) "-" (times 1 2 hexDigit),
    groups (bytes - 1) ":" (times 1 2 hexDigit),
    groups (bytes / 2 - 1) "." (times 4 4 hexDigit)]

/-- Groups of eight, four, four, four and twelve digits. -/
def uniqueIdentifier : Pattern :=
  row [times 8 8 hexDigit, exactly "-", groups 2 "-" (times 4 4 hexDigit), exactly "-",
    times 12 12 hexDigit]

def link : Pattern :=
  row [oneOf (["file", "https", "http", "ws", "wss"].map exactly), exactly "://",
    many (char fun c => c.isAlphanum || "-$_+!`(),.?/;:&=%#~@".toList.contains c)]

/-! ## Values -/

/-- What is called, in front of its arguments. -/
def called : Pattern :=
  row [marked (repeated 0 none true (wordOr ".")), exactly "("]

def lone (word : String) : Pattern := row [wordEdge, marked (exactly word), wordEdge]

/-- Digits with a point behind some of them, and an exponent that goes on for as long as `more`. -/
def magnitude (more : Pattern → Pattern) : Pattern :=
  row [several asciiDigit, optional (exactly "."), many asciiDigit,
    optional (row [exactly "e", optional (among "-+"), more (char isDigit)])]

/-- A pattern as often as what is behind it makes necessary, but once at least. -/
def fewest (pattern : Pattern) : Pattern := repeated 1 none true pattern

def imaginaryNumber : Pattern :=
  row [noWordBefore, optional (exactly "-"), magnitude fewest,
    optional (row [among "-+", magnitude several]), exactly "j"]

def realNumber : Pattern :=
  oneOf [row [noWordBefore, optional (exactly "-"), magnitude fewest, wordEdge],
    row [exactly "0x", many hexDigit]]

/-- The directories of a path, and the name behind them. -/
def pathPattern : Pattern :=
  row [marked (row [edge isWordCharacter false, many (row [exactly "/", several (wordOr "-._+")]),
      exactly "/"]),
    optional (marked (many (wordOr "-._+")))]

/-- A quoted text on one line, up to the first closing quotes that no backslash stands before. -/
def quotedBy (quotes : String) : Pattern :=
  row [optional (exactly "b"), exactly quotes, repeated 0 none true (char (· ≠ '\n')),
    notBehind (· = '\\'), exactly quotes]

def quotedText : Pattern :=
  row [notBehind fun c => c = '\\' || isWordCharacter c,
    marked (oneOf (["'''", "'", "\"\"\"", "\""].map quotedBy))]

/-- A value of any kind; of those that begin at one place the first counts. -/
def valuePattern : Pattern :=
  oneOf [marked dottedAddress, marked colonAddress, marked (deviceAddress 8),
    marked (deviceAddress 6), marked uniqueIdentifier, called, lone "True", lone "False",
    lone "None", marked (exactly "..."), marked imaginaryNumber, marked realNumber, pathPattern,
    quotedText, marked link]

/-- The names of requests. -/
def requestPattern : Pattern :=
  marked (oneOf (["GET", "POST", "HEAD", "PUT", "DELETE", "OPTIONS", "TRACE", "PATCH"].map exactly))

/-! ## All together -/

/-- The stretches of a text that stand out. -/
def highlights (text : List Char) : List Stretch :=
  let found := [tagPattern, attributePattern, bracketPattern, valuePattern, requestPattern].flatMap
    fun pattern => pattern.marks text
  found.filter fun s => s.start < s.stop

end TemplateRun.Console
