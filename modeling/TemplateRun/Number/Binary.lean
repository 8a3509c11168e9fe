/-
# `Binary` — numbers of 53 significant bits

A number is a significand times a power of two, with a sign; it is infinite, or it is none at all.
A decimal is rounded to the nearest such number, and of two that are equally near to the one with
an even significand.  What is too great becomes infinite, and what is too small becomes zero.
-/

namespace TemplateRun

/-- A number as it is written: a sign, digits, and a power of ten. -/
structure Decimal where
  isNegative : Bool
  digits : Nat
  exponent : Int
deriving DecidableEq, Repr

/-- A number as it is held. -/
inductive Binary where
  | finite (isNegative : Bool) (significand : Nat) (exponent : Int)
  | infinite (isNegative : Bool)
  | undefined
deriving DecidableEq, Repr

/-! ## Fractions -/

/-- The whole number nearest to a fraction, the even one of two. -/
def roundDiv (n d : Nat) : Nat :=
  let rest := 2 * (n % d)
  if rest < d ∨ (rest = d ∧ n / d % 2 = 0) then n / d else n / d + 1

/-- A fraction divided by a power of a base. -/
def shiftFraction (base : Nat) (n d : Nat) : Int → Nat × Nat
  | .ofNat e => (n, d * Nat.pow base e)
  | .negSucc e => (n * Nat.pow base (e + 1), d)

def Decimal.fraction (x : Decimal) : Nat × Nat := shiftFraction 10 x.digits 1 (-x.exponent)

namespace Binary

/-- The bits of a significand. -/
def precision : Nat := 53

def leastExponent : Int := -1074

def greatestExponent : Int := 971

/-- The exponent under which a positive fraction has as many bits before the point as a significand
may have. -/
def exponentFor (n d : Nat) : Int :=
  let guess : Int := n.log2 - d.log2
  let (a, b) := shiftFraction 2 n d guess
  let log := if b ≤ a then guess else guess - 1
  max (log - (precision - 1)) leastExponent

/-- The significand and the exponent nearest to a positive fraction. -/
def nearest (n d : Nat) : Nat × Int :=
  let e := exponentFor n d
  let (a, b) := shiftFraction 2 n d e
  let m := roundDiv a b
  if m = Nat.pow 2 precision then (Nat.pow 2 (precision - 1), e + 1) else (m, e)

/-- The places before the point beyond which a decimal is infinite, or behind it, zero. -/
def farPlaces : Int := 400

def ofDecimal (x : Decimal) : Binary :=
  let places := (Nat.toDigits 10 x.digits).length + x.exponent
  if x.digits = 0 ∨ places < -farPlaces then finite x.isNegative 0 leastExponent
  else if farPlaces < places then infinite x.isNegative
  else
    let (m, e) := nearest x.fraction.1 x.fraction.2
    if greatestExponent < e then infinite x.isNegative else finite x.isNegative m e

/-- Whether the number is zero, of either sign. -/
def isZero : Binary → Bool
  | finite _ m _ => m = 0
  | infinite _ | undefined => false

end Binary

end TemplateRun
