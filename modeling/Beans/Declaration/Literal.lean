import Beans.Number.IntKind
import Beans.Text.Identifier
import Beans.Text.Quoted
/-!
# Literals of declarations

The literals at the front of a text: quoted texts, characters, bytes and numbers. A quoted text may have
escapes, or be raw and have none. Behind each literal there may be a word that says more of its type.
-/

set_option autoImplicit false

namespace Beans.Declaration

/-- A literal, as far as declarations depend on it. -/
inductive LiteralKind where
  | string (value : String)
  | integer (value : Nat) (hasSuffix : Bool)
  | float
  /-- A character, or something made of bytes. -/
  | other
deriving DecidableEq, Repr, Inhabited

def isBlank (c : Char) : Bool :=
  let n := c.toNat
  (9 ≤ n && n ≤ 13) || n == 32 || n == 0x85 || n == 0xa0 || n == 0x1680 || (0x2000 ≤ n && n ≤ 0x200a)
    || n == 0x2028 || n == 0x2029 || n == 0x202f || n == 0x205f || n == 0x3000

/-- The longest word at the front of a text, and what is behind it. -/
def spanWord? (chars : List Char) : Option (String × List Char) :=
  if chars.head?.any Text.isIdentStart then
    some (String.ofList (chars.takeWhile Text.isIdentPart), chars.dropWhile Text.isIdentPart)
  else none

namespace LiteralKind

/-! ### Quoted texts -/

structure QuotedForm where
  /-- Characters have to be ASCII, and have no codes in braces. -/
  isBytes : Bool
  /-- Codes of two digits reach beyond ASCII. -/
  hasHighCodes : Bool
  /-- The character of code zero may occur. -/
  hasZero : Bool

namespace QuotedForm

def text : QuotedForm := ⟨false, false, true⟩

def bytes : QuotedForm := ⟨true, true, true⟩

/-- Text that ends with a zero when it is stored. -/
def terminated : QuotedForm := ⟨false, true, false⟩

def allows (f : QuotedForm) (c : Char) : Bool :=
  (!f.isBytes || c.toNat < 128) && (f.hasZero || c.toNat ≠ 0)

end QuotedForm

/-- The digits of a code up to the closing brace, and what is behind it. -/
def codeInBraces (count value : Nat) : List Char → Option (Nat × List Char)
  | [] => none
  | c :: rest =>
    if c = '\x7d' then (if count = 0 || !value.isValidChar then none else some (value, rest))
    else if c = '_' then (if count = 0 then none else codeInBraces count value rest)
    else
      match (digitValue? c).filter (· < 16) with
      | some d => if count = 6 then none else codeInBraces (count + 1) (value * 16 + d) rest
      | none => none

/-- The code that an escape stands for, given what follows the backslash, and what is behind it. -/
def escape? (f : QuotedForm) : List Char → Option (Nat × List Char)
  | 'x' :: a :: b :: rest => do
    let high ← (digitValue? a).filter (· < if f.hasHighCodes then 16 else 8)
    let low ← (digitValue? b).filter (· < 16)
    let code := high * 16 + low
    if code = 0 && !f.hasZero then none
    return (code, rest)
  | 'u' :: '\x7b' :: rest => do
    if f.isBytes then none
    let (code, rest) ← codeInBraces 0 0 rest
    if code = 0 && !f.hasZero then none
    return (code, rest)
  | c :: rest =>
    (match c with
      | 'n' => some 10
      | 'r' => some 13
      | 't' => some 9
      | '0' => if f.hasZero then some 0 else none
      | '\\' | '\'' | '"' => some c.toNat
      | _ => none).map (·, rest)
  | [] => none

/-- Whether there is a carriage return that ends no line. -/
def hasBareReturn : List Char → Bool
  | '\r' :: rest => rest.head? ≠ some '\n' || hasBareReturn rest
  | _ :: rest => hasBareReturn rest
  | [] => false

/-- What is behind the blanks at the end of a line and at the start of the next ones. -/
def behindBlanks? (chars : List Char) : Option (List Char) :=
  let isHidden (c : Char) : Bool := c = ' ' || c = '\t' || c = '\n' || c = '\r'
  if hasBareReturn (chars.takeWhile isHidden) then none else some (chars.dropWhile isHidden)

/-- What a quoted text holds, given what follows the opening quote, and what is behind the closing one. A
backslash at the end of a line hides the blanks up to the next text. -/
def quoted? (f : QuotedForm) : Nat → List Char → Option (List Char × List Char)
  | fuel + 1, c :: rest =>
    let andThen (c : Char) (rest : List Char) : Option (List Char × List Char) :=
      (quoted? f fuel rest).map fun (value, rest) => (c :: value, rest)
    match c, rest with
    | '"', rest => some ([], rest)
    | '\r', '\n' :: rest => andThen '\n' rest
    | '\r', _ => none
    | '\\', '\n' :: rest | '\\', '\r' :: '\n' :: rest => (behindBlanks? rest).bind (quoted? f fuel)
    | '\\', rest => do
      let (code, rest) ← escape? f rest
      andThen (Char.ofNat code) rest
    | c, rest => if f.allows c then andThen c rest else none
  | _, _ => none

/-- What a raw text holds, up to a quote with `hashes` behind it, and what is behind these. -/
def rawBody? (f : QuotedForm) (hashes : Nat) : List Char → Option (List Char × List Char)
  | [] => none
  | c :: rest =>
    if c = '"' && rest.take hashes = List.replicate hashes '#' then some ([], rest.drop hashes)
    else if (c = '\r' && rest.head? ≠ some '\n') || !f.allows c then none
    else (rawBody? f hashes rest).map fun (value, rest) => (c :: value, rest)

def raw? (f : QuotedForm) (chars : List Char) : Option (List Char × List Char) :=
  let hashes := (chars.takeWhile (· = '#')).length
  match chars.drop hashes with
  | '"' :: rest => if hashes ≤ 255 then rawBody? f hashes rest else none
  | _ => none

def character? (f : QuotedForm) : List Char → Option (List Char)
  | '\\' :: rest =>
    match escape? f rest with
    | some (_, '\'' :: rest) => some rest
    | _ => none
  | c :: '\'' :: rest => if f.allows c then some rest else none
  | _ => none

/-! ### Numbers -/

def digits? (base : Nat) (chars : List Char) : Option (Nat × List Char) :=
  let isDigit (c : Char) : Bool := c = '_' || (digitValue? c).any (· < base)
  let digits := chars.takeWhile isDigit
  let rest := chars.dropWhile isDigit
  if digits.all (· = '_') || (base = 10 && digits.head? = some '_') || rest.head?.any Char.isDigit then none
  else some ((digits.filterMap digitValue?).foldl (· * base + ·) 0, rest)

/-- The value of an integer, and what is behind it. A letter may mark it as hexadecimal, octal or binary. -/
def integer? : List Char → Option (Nat × List Char)
  | '0' :: 'x' :: rest => digits? 16 rest
  | '0' :: 'o' :: rest => digits? 8 rest
  | '0' :: 'b' :: rest => digits? 2 rest
  | chars => if chars.head?.any Char.isDigit then digits? 10 chars else none

def exponent? (chars : List Char) : Option (List Char) :=
  let isDigit (c : Char) : Bool := c = '_' || c.isDigit
  let front := chars.takeWhile (· = '_')
  let body := match chars.drop front.length with
    | '+' :: rest | '-' :: rest => rest
    | rest => rest
  if (body.takeWhile isDigit).any Char.isDigit then some (body.dropWhile isDigit) else none

/-- What is behind a number with a point or an exponent. A point belongs to it unless another point or a
word follows. -/
def float? (chars : List Char) : Option (List Char) :=
  let isDigit (c : Char) : Bool := c = '_' || c.isDigit
  let isExponent (c : Char) : Bool := c = 'e' || c = 'E'
  if !chars.head?.any Char.isDigit then none
  else match chars.dropWhile isDigit with
  | '.' :: rest =>
    if rest.head?.any fun c => c = '.' || Text.isIdentStart c then none
    else match rest.dropWhile isDigit with
    | c :: behind => if isExponent c then (exponent? behind).or (some (c :: behind)) else some (c :: behind)
    | [] => some []
  | c :: rest => if isExponent c then exponent? rest else none
  | [] => none

/-! ### Literals -/

def behindSuffix (chars : List Char) : List Char :=
  ((spanWord? chars).map (·.2)).getD chars

def behindNumber? (chars : List Char) : Option (List Char) :=
  let rest := behindSuffix chars
  if rest.head?.any Text.isIdentPart then none else some rest

def quotedKind? (chars : List Char) : Option (LiteralKind × List Char) :=
  let cooked (f : QuotedForm) (rest : List Char) := quoted? f (rest.length + 1) rest
  let ofText := Option.map fun ((value, rest) : List Char × List Char) =>
    (string (String.ofList value), rest)
  let ofBytes := Option.map fun ((_, rest) : List Char × List Char) => (other, rest)
  match chars with
  | '"' :: rest => ofText (cooked .text rest)
  | 'r' :: rest => ofText (raw? .text rest)
  | 'b' :: '"' :: rest => ofBytes (cooked .bytes rest)
  | 'b' :: 'r' :: rest => ofBytes (raw? .bytes rest)
  | 'b' :: '\'' :: rest => (character? .bytes rest).map (other, ·)
  | 'c' :: '"' :: rest => ofBytes (cooked .terminated rest)
  | 'c' :: 'r' :: rest => ofBytes (raw? .terminated rest)
  | '\'' :: rest => (character? .text rest).map (other, ·)
  | _ => none

def read? (chars : List Char) : Option (LiteralKind × List Char) :=
  match quotedKind? chars with
  | some (kind, rest) => some (kind, behindSuffix rest)
  | none =>
    match (float? chars).bind behindNumber? with
    | some rest => some (float, rest)
    | none => do
      let (value, rest) ← integer? chars
      let behind ← behindNumber? rest
      return (integer value (behind.length ≠ rest.length), behind)

end LiteralKind

end Beans.Declaration
