/-
# `Escape` — escape sequences in texts

A backslash in a text and the letter behind it may call for a character by its number, in so many
hexadecimal digits, or by its name.  Whatever else stands behind a backslash is no fault.

Where a fault is, is told in bytes of a form in which every character beyond ASCII is itself
written as an escape sequence, of ten bytes, and a backslash in front of it as one of six.
-/
import TemplateRun.Literal.Fault
import TemplateRun.Text.CharacterName
import TemplateRun.Text.Hexadecimal

namespace TemplateRun.Literal

def isAscii (c : Char) : Bool := c.toNat < 0x80

/-- The bytes that a text takes when all beyond ASCII is escaped. -/
def escapedSize : List Char → Nat
  | [] => 0
  | '\\' :: c :: rest => (if isAscii c then 2 else 16) + escapedSize rest
  | c :: rest => (if isAscii c then 1 else if c = '\\' then 6 else 10) + escapedSize rest

/-- Whether an escape sequence with a number is sound: from its first byte, the letter, how many
digits it has to have, and what stands there. -/
def checkNumber (first : Nat) (letter : Char) (count : Nat) (s : List Char) :
    Except TextFault Unit :=
  let digits := (s.take count).takeWhile Text.isHexDigit
  let last := first + 1 + digits.length
  if digits.length < count then .error (.escape first last (.truncated letter count))
  else if 0x10ffff < Text.numeralIn 16 digits then .error (.escape first last .beyondUnicode)
  else .ok ()

/-- Whether an escape sequence with a name is sound, from its first byte and what stands there. -/
def checkName (first : Nat) : List Char → Except TextFault Unit
  | '{' :: rest =>
    let name := rest.takeWhile (· ≠ '}')
    if name = rest then .error (.escape first (first + 2 + escapedSize rest) .malformedName)
    else if name = [] then .error (.escape first (first + 2) .malformedName)
    else if Text.isCharacterName name then .ok ()
    else .error (.escape first (first + 3 + escapedSize name) .unknownName)
  | _ => .error (.escape first (first + 1) .malformedName)

/-- Whether an escape sequence is sound, from its first byte, the character behind the backslash,
and what follows. -/
def checkEscape (first : Nat) (c : Char) (rest : List Char) : Except TextFault Unit :=
  if c = 'x' then checkNumber first c 2 rest
  else if c = 'u' then checkNumber first c 4 rest
  else if c = 'U' then checkNumber first c 8 rest
  else if c = 'N' then checkName first rest
  else .ok ()

/-- Whether the escape sequences of a text are sound, from the place of its first byte. -/
def checkEscapes : (first : Nat) → List Char → Except TextFault Unit
  | _, [] => .ok ()
  | first, '\\' :: c :: rest => do
    checkEscape first c rest
    checkEscapes (first + if isAscii c then 2 else 16) rest
  | first, c :: rest => checkEscapes (first + if isAscii c then 1 else 10) rest

/-- Whether the escape sequences of bytes are sound, from the place of the first one. -/
def checkByteEscapes : (first : Nat) → List Char → Except TextFault Unit
  | _, [] => .ok ()
  | first, '\\' :: c :: rest =>
    if c = 'x' && !((rest.take 2).length = 2 && (rest.take 2).all Text.isHexDigit) then
      .error (.byteEscape first)
    else checkByteEscapes (first + 2) rest
  | first, _ :: rest => checkByteEscapes (first + 1) rest

end TemplateRun.Literal
