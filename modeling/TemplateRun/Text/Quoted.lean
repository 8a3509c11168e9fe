/-
# `Quoted` — one-line text for any string

A string is written between two equal delimiters: the apostrophe, unless the string has an
apostrophe and no quotation mark, then the quotation mark.  Inside, the delimiter and the
backslash stand behind a backslash, three control characters have a letter each, every other
character that is not printable is written as its code point in hexadecimal, two, four or eight
digits wide, and the rest stands for itself.  So the written form is a single line whatever the
string holds (`isPrintable` of every character of it), and it gives the string away.
-/
import TemplateRun.Text.Hexadecimal
import TemplateRun.Text.Printable

namespace TemplateRun.Text

/-! ## Quoting -/

namespace Quoted

/-- The delimiter that needs the fewer escapes, the apostrophe if nothing decides. -/
def delimiter (s : List Char) : Char :=
  if '\'' ∈ s ∧ '"' ∉ s then '"' else '\''

/-- The code point in the narrowest of three widths, marked by `x`, `u` or `U`. -/
def codePoint (c : Char) : List Char :=
  let n := c.toNat
  if n < 0x100 then '\\' :: 'x' :: hex 2 n
  else if n < 0x10000 then '\\' :: 'u' :: hex 4 n
  else '\\' :: 'U' :: hex 8 n

/-- A character as it stands between the delimiters `q`. -/
def element (q c : Char) : List Char :=
  if c = q ∨ c = '\\' then ['\\', c]
  else if c = '\n' then ['\\', 'n']
  else if c = '\r' then ['\\', 'r']
  else if c = '\t' then ['\\', 't']
  else if isPrintable c then [c]
  else codePoint c

/-- The written form, character by character. -/
def encode (s : List Char) : List Char :=
  let q := delimiter s
  q :: (s.flatMap (element q) ++ [q])

end Quoted

/-- The written form of a string. -/
def quote (s : String) : String := String.ofList (Quoted.encode s.toList)

end TemplateRun.Text
