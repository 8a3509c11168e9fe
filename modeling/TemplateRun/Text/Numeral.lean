/-
# `Numeral` — whole numbers written in decimal digits

The digits may be of any script.  Reading asks for a digit at least, and it gives up on a numeral
that is longer than a bound, leading zeros included.
-/
import TemplateRun.Text.Digit

namespace TemplateRun.Text

/-- The number that digits write; other characters count as zeros. -/
def numeral (digits : List Char) : Nat :=
  digits.foldl (fun n c => n * 10 + (digit? c).getD 0) 0

/-- How many digits are read. -/
def digitLimit : Nat := 4300

/-- Why digits are not read. -/
inductive NumeralFault where
  /-- No digit is there. -/
  | missing
  | tooLong (count : Nat)
deriving DecidableEq, Repr

def NumeralFault.message : NumeralFault → String
  | missing => "invalid literal for int() with base 10: ''"
  | tooLong count =>
    "Exceeds the limit (" ++ toString digitLimit ++ " digits) for integer string conversion: " ++
      "value has " ++ toString count ++
      " digits; use sys.set_int_max_str_digits() to increase the limit"

/-- The number that digits write. -/
def readNumeral (digits : List Char) : Except NumeralFault Nat :=
  if digits = [] then .error .missing
  else if digitLimit < digits.length then .error (.tooLong digits.length)
  else .ok (numeral digits)

end TemplateRun.Text
