/-
# `Shortest` — the fewest digits that tell a number from its neighbors

A number is written with the fewest decimal digits that round to it; of several such texts of one
length the nearest to the number is taken, and then the one that ends in an even digit.  The point
stands where it belongs if that takes no more than sixteen digits before it and no more than three
zeros behind it; otherwise there is a power of ten.
-/
import TemplateRun.Number.Binary

namespace TemplateRun.Binary

/-! ## Digits -/

/-- The exponent of the power of ten that is not above a positive fraction, while ten times it
is. -/
def decimalLog (n d : Nat) : Int :=
  if d ≤ n then (Nat.toDigits 10 (n / d)).length - 1
  else -((Nat.toDigits 10 ((n + d - 1) / n - 1)).length : Int)

/-- Whether `digits` times a power of ten rounds to a number. -/
def isReadAs (m : Nat) (e : Int) (digits : Nat) (exponent : Int) : Bool :=
  let (n, d) := (Decimal.mk false digits exponent).fraction
  digits ≠ 0 && nearest n d = (m, e)

def fraction (m : Nat) (e : Int) : Nat × Nat := shiftFraction 2 m 1 (-e)

/-- The nearest decimal of `count` digits that rounds to a number, if there is one. -/
def digitsOf? (m : Nat) (e : Int) (count : Nat) : Option (Nat × Int) :=
  let (n, d) := fraction m e
  let exponent := decimalLog n d - (count - 1 : Nat)
  let (a, b) := shiftFraction 10 n d exponent
  let nearer := roundDiv a b
  let other := if nearer = a / b then a / b + 1 else a / b
  if isReadAs m e nearer exponent then some (nearer, exponent)
  else if isReadAs m e other exponent then some (other, exponent)
  else none

/-- Digits that are always enough. -/
def enoughDigits : Nat := 17

/-- The fewest digits that round to a positive number, and the power of ten with them. -/
def shortest (m : Nat) (e : Int) : Nat × Int :=
  ((List.range enoughDigits).findSome? fun k => digitsOf? m e (k + 1)).getD (0, 0)

/-! ## Text -/

def zeros (count : Nat) : List Char := List.replicate count '0'

/-- The digits with the point behind `places` of them. -/
def positional (digits : List Char) (places : Int) : List Char :=
  if places ≤ 0 then '0' :: '.' :: (zeros (-places).toNat ++ digits)
  else if digits.length ≤ places.toNat then
    digits ++ zeros (places.toNat - digits.length) ++ ['.', '0']
  else digits.take places.toNat ++ '.' :: digits.drop places.toNat

/-- The digits with the point behind the first of them, and a power of ten. -/
def scientific (digits : List Char) (places : Int) : List Char :=
  let exponent := places - 1
  let shown := Nat.toDigits 10 exponent.natAbs
  digits.take 1 ++ (if digits.length ≤ 1 then [] else '.' :: digits.drop 1) ++
    'e' :: (if exponent < 0 then '-' else '+') :: (zeros (2 - shown.length) ++ shown)

def magnitudeText (m : Nat) (e : Int) : List Char :=
  let (value, exponent) := shortest m e
  let all := Nat.toDigits 10 value
  let digits := (all.reverse.dropWhile (· = '0')).reverse
  let places := all.length + exponent
  if -4 < places ∧ places ≤ 16 then positional digits places else scientific digits places

def text : Binary → String
  | finite isNegative m e =>
    (if isNegative then "-" else "") ++
      if m = 0 then "0.0" else String.ofList (magnitudeText m e)
  | infinite isNegative => (if isNegative then "-" else "") ++ "inf"
  | undefined => "nan"

end TemplateRun.Binary
