import Beans.Number.FloatFormat
/-!
# Decimal text of floating-point numbers

Writing chooses the fewest decimal digits that read back as the same number, and of those the ones
nearest to it. Where the positional form ends and how an exponent looks is a `FloatStyle`. Reading
rounds the exact decimal value to the nearest number.
-/

set_option autoImplicit false

namespace Beans

/-- The decimal number `digits * 10 ^ exponent`. -/
structure Decimal where
  digits : Nat
  exponent : Int
deriving DecidableEq, Repr

/-- The reals that round to a positive number, and the number itself, as multiples of `1 / den`. -/
structure RoundingInterval where
  lower : Nat
  value : Nat
  upper : Nat
  den : Nat
  /-- Whether the ends round to the number as well. -/
  closed : Bool

namespace RoundingInterval

def contains (i : RoundingInterval) (num d : Nat) : Bool :=
  if i.closed then i.lower * d ≤ num * i.den && num * i.den ≤ i.upper * d
  else i.lower * d < num * i.den && num * i.den < i.upper * d

def lead (i : RoundingInterval) : Int :=
  if i.den ≤ i.value then ((Nat.toDigits 10 (i.value / i.den)).length : Int) - 1
  else -((Nat.toDigits 10 ((i.den - 1) / i.value)).length : Int)

/-- The multiple of `10 ^ k` that rounds to the number and lies nearest to it. Of two that are equally
near it is the even one, or else the greater one. Only the two neighbours of the number can be
nearest. -/
def multiple? (i : RoundingInterval) (tiesToEven : Bool) (k : Int) : Option Nat :=
  let up := Nat.pow 10 k.toNat
  let down := Nat.pow 10 (-k).toNat
  let unit := i.den * up
  let below := i.value * down / unit
  let rest := i.value * down % unit
  let hit (d : Nat) := i.contains (d * up) down
  match hit below, hit (below + 1) with
  | true, true =>
    let isAbove :=
      if 2 * rest = unit then !tiesToEven || below % 2 == 1 else decide (unit < 2 * rest)
    some (if isAbove then below + 1 else below)
  | true, false => some below
  | false, true => some (below + 1)
  | false, false => none

/-- The first multiple found of `10 ^ k`, `10 ^ (k - 1)`, …, at most `fuel` powers down. -/
def firstMultiple (i : RoundingInterval) (tiesToEven : Bool) : Nat → Int → Decimal
  | 0, k => ⟨i.value * Nat.pow 10 (-k).toNat / (i.den * Nat.pow 10 k.toNat), k⟩
  | fuel + 1, k =>
    match i.multiple? tiesToEven k with
    | some d => ⟨d, k⟩
    | none => i.firstMultiple tiesToEven fuel (k - 1)

end RoundingInterval

namespace FloatFormat

/-- Below a power of two the numbers lie twice as dense as above it. -/
def roundingInterval (f : FloatFormat) (bits : Nat) : RoundingInterval :=
  let (m, e) := f.scaled bits
  let below := if m == Nat.pow 2 f.fractionBits && f.minExponent < e then 1 else 2
  let scale := Nat.pow 2 e.toNat
  { lower := (4 * m - below) * scale
    value := 4 * m * scale
    upper := (4 * m + 2) * scale
    den := 4 * Nat.pow 2 (-e).toNat
    closed := m % 2 == 0 }

/-- The decimal with the fewest digits that reads back as the positive finite number, and of those
the nearest to it. Seventeen digits tell all numbers apart. -/
def shortest (f : FloatFormat) (tiesToEven : Bool) (bits : Nat) : Decimal :=
  let i := f.roundingInterval bits
  i.firstMultiple tiesToEven 17 i.lead

end FloatFormat

/-! ### Writing -/

structure FloatStyle where
  /-- The least and the greatest exponent of the leading digit in positional text. -/
  leastPositional : Int
  greatestPositional : Int
  plus : Bool
  /-- Whether the even one of two decimals that are equally near is taken, and not the greater one. -/
  tiesToEven : Bool
  nan : String
  infinity : String
  negativeInfinity : String

namespace Decimal

/-- Digits around a point, the first one at the decimal exponent `lead`. An empty fraction is
written as a zero. -/
def positional (digits : List Char) (lead : Int) : List Char :=
  if lead < 0 then
    ['0', '.'] ++ List.replicate (-lead - 1).toNat '0' ++ digits
  else
    let whole := lead.toNat + 1
    let fraction := digits.drop whole
    digits.take whole ++ List.replicate (whole - digits.length) '0' ++ ['.']
      ++ (if fraction.isEmpty then ['0'] else fraction)

/-- One digit before the point, the others behind it, and the exponent. -/
def scientific (plus : Bool) (digits : List Char) (lead : Int) : List Char :=
  let fraction := digits.drop 1
  let sign := if lead < 0 then ['-'] else if plus then ['+'] else []
  digits.take 1 ++ (if fraction.isEmpty then [] else '.' :: fraction)
    ++ 'e' :: sign ++ Nat.toDigits 10 lead.natAbs

def text (style : FloatStyle) (d : Decimal) : String :=
  let all := Nat.toDigits 10 d.digits
  let digits := (all.reverse.dropWhile (· == '0')).reverse
  let lead := d.exponent + (all.length : Int) - 1
  String.ofList <|
    if style.leastPositional ≤ lead ∧ lead ≤ style.greatestPositional then positional digits lead
    else scientific style.plus digits lead

end Decimal

def FloatFormat.text (f : FloatFormat) (style : FloatStyle) (bits : Nat) : String :=
  let sign := if f.isNegative bits then "-" else ""
  if f.isNaN bits then style.nan
  else if f.isInfinite bits then
    if f.isNegative bits then style.negativeInfinity else style.infinity
  else if f.isZero bits then sign ++ "0.0"
  else sign ++ (f.shortest style.tiesToEven (f.magnitude bits)).text style

/-! ### Reading -/

inductive FloatTextError where
  | empty
  | invalid
deriving DecidableEq, Repr

def FloatTextError.message : FloatTextError → String
  | .empty => "cannot parse float from empty string"
  | .invalid => "invalid float literal"

namespace Decimal

def digitsValue (digits : List Char) : Nat :=
  digits.foldl (fun n c => 10 * n + (c.toNat - '0'.toNat)) 0

def readExponent? : List Char → Option Int
  | [] => some 0
  | c :: rest =>
    if c = 'e' ∨ c = 'E' then
      match rest with
      | '+' :: digits => (digits? digits).map Int.ofNat
      | '-' :: digits => (digits? digits).map fun n => -(n : Int)
      | digits => (digits? digits).map Int.ofNat
    else none
where
  digits? (digits : List Char) : Option Nat :=
    if digits.isEmpty || !digits.all Char.isDigit then none else some (digitsValue digits)

/-- Reads an unsigned number: digits with a point before, among or after them, and an exponent. -/
def read? (text : List Char) : Option Decimal :=
  let whole := text.takeWhile Char.isDigit
  let rest := text.dropWhile Char.isDigit
  let (fraction, rest) :=
    match rest with
    | '.' :: rest => (rest.takeWhile Char.isDigit, rest.dropWhile Char.isDigit)
    | rest => ([], rest)
  if whole.isEmpty && fraction.isEmpty then none
  else
    (readExponent? rest).map fun e => ⟨digitsValue (whole ++ fraction), e - fraction.length⟩

/-- The nearest magnitude of a format. A leading digit above `10 ^ 400` or below `10 ^ -400` is out
of the range of both formats. -/
def toFloat (f : FloatFormat) (d : Decimal) : Nat :=
  let lead := d.exponent + (Nat.toDigits 10 d.digits).length
  if d.digits = 0 ∨ lead < -400 then 0
  else if 400 < lead then f.infinity
  else f.ofRatio (d.digits * Nat.pow 10 d.exponent.toNat) (Nat.pow 10 (-d.exponent).toNat)

end Decimal

/-- Reads a number: an optional sign, and then digits or the name of infinity or of what is not a
number, in any case. -/
def FloatFormat.read (f : FloatFormat) (text : String) : Except FloatTextError Nat :=
  match text.toList with
  | [] => .error .empty
  | '+' :: rest => magnitude? rest
  | '-' :: rest => (magnitude? rest).map (f.withSign true)
  | chars => magnitude? chars
where
  magnitude? (chars : List Char) : Except FloatTextError Nat :=
    match Decimal.read? chars with
    | some d => .ok (d.toFloat f)
    | none =>
      let name := String.ofList (chars.map Char.toLower)
      if name == "inf" || name == "infinity" then .ok f.infinity
      else if name == "nan" then .ok f.nan
      else .error .invalid

end Beans
