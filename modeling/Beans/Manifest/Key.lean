import Beans.Number.IntKind
/-!
# Keys of manifests

The name of a section is a key of one or more parts with points between them. A part is written bare, in
double quotes with escapes, or in single quotes without; blanks around it do not count.
-/

set_option autoImplicit false

namespace Beans.Manifest

def isBare (c : Char) : Bool :=
  c.isAlphanum || c = '_' || c = '-'

def isKeyBlank (c : Char) : Bool :=
  c = ' ' || c = '\t'

def ofCode? (digits : List Char) : Option Char := do
  let n ← digits.foldlM (fun n c => do return n * 16 + (← (digitValue? c).filter (· < 16))) 0
  if n.isValidChar then some (Char.ofNat n) else none

def escapeOf? : Char → Option Char
  | 'b' => some '\x08'
  | 't' => some '\t'
  | 'n' => some '\n'
  | 'f' => some '\x0c'
  | 'r' => some '\r'
  | '"' => some '"'
  | '\\' => some '\\'
  | _ => none

/-- What a text in double quotes holds up to the closing one or the end, and what is behind that. -/
def unquoted? : List Char → Option (List Char × List Char)
  | [] => some ([], [])
  | '"' :: rest => some ([], rest)
  | '\\' :: 'u' :: a :: b :: c :: d :: rest => do
    let char ← ofCode? [a, b, c, d]
    let (value, rest) ← unquoted? rest
    return (char :: value, rest)
  | '\\' :: 'U' :: a :: b :: c :: d :: e :: f :: g :: h :: rest => do
    let char ← ofCode? [a, b, c, d, e, f, g, h]
    let (value, rest) ← unquoted? rest
    return (char :: value, rest)
  | '\\' :: c :: rest => do
    let char ← escapeOf? c
    let (value, rest) ← unquoted? rest
    return (char :: value, rest)
  | c :: rest => do
    let (value, rest) ← unquoted? rest
    return (c :: value, rest)

def keyPart? (chars : List Char) : Option (String × List Char) :=
  match chars with
  | '"' :: rest => (unquoted? rest).map fun (value, rest) => (String.ofList value, rest)
  | '\'' :: rest => some (String.ofList (rest.takeWhile (· ≠ '\'')), (rest.dropWhile (· ≠ '\'')).drop 1)
  | chars =>
    let part := chars.takeWhile isBare
    if part.isEmpty then none else some (String.ofList part, chars.dropWhile isBare)

/-- The parts of a key. Each takes a character at least, so as many steps as there are characters are
enough. -/
def keyParts? : Nat → List Char → Option (List String)
  | 0, _ => none
  | fuel + 1, chars => do
    let (part, rest) ← keyPart? (chars.dropWhile isKeyBlank)
    match rest.dropWhile isKeyBlank with
    | [] => return [part]
    | '.' :: rest => return part :: (← keyParts? fuel rest)
    | _ => none

def parts? (name : String) : Option (List String) :=
  keyParts? (name.length + 1) name.toList

/-- What a key holds that is written in double quotes. -/
def quotedKey (text : String) : String :=
  ((unquoted? text.toList).map fun (value, _) => String.ofList value).getD text

end Beans.Manifest
