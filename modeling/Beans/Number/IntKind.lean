/-!
# Fixed-width integers

The twelve integer kinds, with the range of each, and the reading of decimal text into them.
-/

set_option autoImplicit false

namespace Beans

/-- The kinds of fixed-width integers. The `size` kinds have the width of an address, 64 bits. -/
inductive IntKind where
  | u8 | u16 | u32 | u64 | u128 | usize
  | i8 | i16 | i32 | i64 | i128 | isize
deriving DecidableEq, Repr, Inhabited

namespace IntKind

def name : IntKind → String
  | u8 => "u8"
  | u16 => "u16"
  | u32 => "u32"
  | u64 => "u64"
  | u128 => "u128"
  | usize => "usize"
  | i8 => "i8"
  | i16 => "i16"
  | i32 => "i32"
  | i64 => "i64"
  | i128 => "i128"
  | isize => "isize"

def all : List IntKind :=
  [u8, u16, u32, u64, u128, usize, i8, i16, i32, i64, i128, isize]

def isSigned : IntKind → Bool
  | u8 | u16 | u32 | u64 | u128 | usize => false
  | i8 | i16 | i32 | i64 | i128 | isize => true

def width : IntKind → Nat
  | u8 | i8 => 8
  | u16 | i16 => 16
  | u32 | i32 => 32
  | u64 | i64 | usize | isize => 64
  | u128 | i128 => 128

def min (k : IntKind) : Int :=
  if k.isSigned then -(Nat.pow 2 (k.width - 1) : Int) else 0

def max (k : IntKind) : Int :=
  (Nat.pow 2 (if k.isSigned then k.width - 1 else k.width) : Int) - 1

def InRange (k : IntKind) (n : Int) : Prop :=
  k.min ≤ n ∧ n ≤ k.max

instance (k : IntKind) (n : Int) : Decidable (k.InRange n) :=
  inferInstanceAs (Decidable (k.min ≤ n ∧ n ≤ k.max))

/-- The integer as an unsigned word of the kind's width, a negative one in two's complement. -/
def toWord (k : IntKind) (n : Int) : Nat :=
  (n % (Nat.pow 2 k.width : Int)).toNat

end IntKind

inductive IntTextError where
  | empty
  | invalidDigit
  | tooLarge
  | tooSmall
deriving DecidableEq, Repr

def IntTextError.message : IntTextError → String
  | .empty => "cannot parse integer from empty string"
  | .invalidDigit => "invalid digit found in string"
  | .tooLarge => "number too large to fit in target type"
  | .tooSmall => "number too small to fit in target type"

/-- The value of a digit in the bases up to 36, in either case. -/
def digitValue? (c : Char) : Option Nat :=
  if '0' ≤ c ∧ c ≤ '9' then some (c.toNat - '0'.toNat)
  else if 'a' ≤ c ∧ c ≤ 'z' then some (c.toNat - 'a'.toNat + 10)
  else if 'A' ≤ c ∧ c ≤ 'Z' then some (c.toNat - 'A'.toNat + 10)
  else none

namespace IntKind

/-- Reads digits behind a value already read, and stops at the first character that is no digit or
whose digit leaves the range of the kind. The sign is applied digit by digit, so both bounds are
reached exactly. -/
def readDigits (k : IntKind) (base : Nat) (negative : Bool) :
    Int → List Char → Except IntTextError Int
  | n, [] => .ok n
  | n, c :: rest =>
    match (digitValue? c).filter (· < base) with
    | none => .error .invalidDigit
    | some d =>
      if negative then
        let n := n * base - d
        if n < k.min then .error .tooSmall else k.readDigits base negative n rest
      else
        let n := n * base + d
        if k.max < n then .error .tooLarge else k.readDigits base negative n rest

/-- Reads an integer: an optional `+`, or `-` for the signed kinds, and then digits. -/
def read (k : IntKind) (base : Nat) (text : String) : Except IntTextError Int :=
  match text.toList with
  | [] => .error .empty
  | ['+'] | ['-'] => .error .invalidDigit
  | '+' :: rest => k.readDigits base false 0 rest
  | '-' :: rest =>
    if k.isSigned then k.readDigits base true 0 rest else .error .invalidDigit
  | chars => k.readDigits base false 0 chars

end IntKind

end Beans
