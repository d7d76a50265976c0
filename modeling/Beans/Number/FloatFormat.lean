/-!
# Binary floating-point formats

A floating-point number is held as its bit pattern, a natural number below `2 ^ width`. This module
gives the two formats, the exact value `mantissa * 2 ^ exponent` of a finite pattern, the order of
the numbers, and the rounding of an exact ratio to the nearest pattern, a tie going to the even one.

Patterns are ordered through `FloatFormat.rank`: the magnitude bits read as a number, negated when
the sign bit is set. On patterns that are numbers this is the order of their values, and it puts the
two zeros at the same place.
-/

set_option autoImplicit false

namespace Beans

inductive FloatFormat where
  | single
  | double
deriving DecidableEq, Repr, Inhabited

namespace FloatFormat

def fractionBits : FloatFormat → Nat
  | single => 23
  | double => 52

def exponentBits : FloatFormat → Nat
  | single => 8
  | double => 11

def width (f : FloatFormat) : Nat :=
  1 + f.exponentBits + f.fractionBits

def signBit (f : FloatFormat) : Nat :=
  Nat.pow 2 (f.width - 1)

/-- The pattern of positive infinity. Greater magnitudes are not numbers. -/
def infinity (f : FloatFormat) : Nat :=
  (Nat.pow 2 f.exponentBits - 1) * Nat.pow 2 f.fractionBits

def minExponent (f : FloatFormat) : Int :=
  2 - (Nat.pow 2 (f.exponentBits - 1) : Int) - f.fractionBits

def nan (f : FloatFormat) : Nat :=
  f.infinity + Nat.pow 2 (f.fractionBits - 1)

def magnitude (f : FloatFormat) (bits : Nat) : Nat :=
  bits % f.signBit

def isNegative (f : FloatFormat) (bits : Nat) : Bool :=
  bits / f.signBit % 2 == 1

def isNaN (f : FloatFormat) (bits : Nat) : Bool :=
  f.infinity < f.magnitude bits

def isInfinite (f : FloatFormat) (bits : Nat) : Bool :=
  f.magnitude bits == f.infinity

def isZero (f : FloatFormat) (bits : Nat) : Bool :=
  f.magnitude bits == 0

/-- The mantissa and exponent of a finite pattern: its magnitude is `mantissa * 2 ^ exponent`. The
leading bit of the mantissa is implied, except in the numbers of the least exponent. -/
def scaled (f : FloatFormat) (bits : Nat) : Nat × Int :=
  let fraction := f.magnitude bits % Nat.pow 2 f.fractionBits
  match f.magnitude bits / Nat.pow 2 f.fractionBits with
  | 0 => (fraction, f.minExponent)
  | e + 1 => (fraction + Nat.pow 2 f.fractionBits, f.minExponent + e)

/-! ### Order -/

def rank (f : FloatFormat) (bits : Nat) : Int :=
  if f.isNegative bits then -(f.magnitude bits : Int) else f.magnitude bits

/-- Equality of numbers: what is not a number equals nothing, and the two zeros are equal. -/
def equal (f : FloatFormat) (a b : Nat) : Bool :=
  !f.isNaN a && !f.isNaN b && f.rank a == f.rank b

def compare? (f : FloatFormat) (a b : Nat) : Option Ordering :=
  if f.isNaN a || f.isNaN b then none else some (compare (f.rank a) (f.rank b))

/-! ### Rounding -/

/-- The quotient rounded to the nearest integer, a tie going to the even one. -/
def roundDiv (num den : Nat) : Nat :=
  let q := num / den
  let twice := 2 * (num % den)
  if den < twice || (twice == den && q % 2 == 1) then q + 1 else q

/-- The ratio `num / den` scaled by `2 ^ -exponent`, as a ratio again. -/
def scaleRatio (num den : Nat) (exponent : Int) : Nat × Nat :=
  if 0 ≤ exponent then (num, den * Nat.pow 2 exponent.toNat)
  else (num * Nat.pow 2 (-exponent).toNat, den)

/-- The exponent at which the mantissa of the positive ratio `num / den` is written: the one that
gives it `fractionBits + 1` digits, but no less than the least exponent. -/
def ratioExponent (f : FloatFormat) (num den : Nat) : Int :=
  let e : Int := (Nat.log2 num : Int) - Nat.log2 den
  let (n, d) := scaleRatio num den e
  max f.minExponent ((if n < d then e - 1 else e) - f.fractionBits)

/-- The magnitude nearest to `num / den`, a tie going to the even one. What lies above the greatest
finite magnitude becomes infinite. -/
def ofRatio (f : FloatFormat) (num den : Nat) : Nat :=
  if num = 0 then 0
  else
    let e := f.ratioExponent num den
    let (n, d) := scaleRatio num den e
    min f.infinity ((e - f.minExponent).toNat * Nat.pow 2 f.fractionBits + roundDiv n d)

def withSign (f : FloatFormat) (negative : Bool) (magnitude : Nat) : Nat :=
  if negative then f.signBit + magnitude else magnitude

def distance (f : FloatFormat) (a b : Nat) : Nat :=
  let (m, p) := f.scaled a
  let (n, q) := f.scaled b
  let e := min p q
  let signed (bits mantissa : Nat) (exponent : Int) : Int :=
    let v : Int := mantissa * Nat.pow 2 (exponent - e).toNat
    if f.isNegative bits then -v else v
  let gap := (signed a m p - signed b n q).natAbs
  let (num, den) := scaleRatio gap 1 (-e)
  f.ofRatio num den

/-! ### Closeness -/

/-- Whether two numbers lie within a tolerance of each other. Two patterns that are not numbers are
close, and an infinite number is close to itself only. -/
def within (f : FloatFormat) (tolerance a b : Nat) : Bool :=
  if f.isNaN a || f.isNaN b then f.isNaN a && f.isNaN b
  else if f.isInfinite a || f.isInfinite b then f.equal a b
  else (f.compare? (f.distance a b) tolerance).any (·.isLE)

end FloatFormat

end Beans
