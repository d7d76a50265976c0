import Beans.Text.Printable
/-!
# Quoted text

A quoted text stands between two quotes, and the characters that would break it are escaped: some by
a letter behind a backslash, others by their code.
-/

set_option autoImplicit false

namespace Beans.Text

structure QuoteStyle where
  quote : Char
  /-- The letter that stands for a character behind a backslash. -/
  letter? : Char → Option Char
  /-- Whether a character without a letter is written by its code. -/
  isCoded : Char → Bool
  /-- What stands for a code behind the backslash. -/
  code : Nat → List Char

def QuoteStyle.escape (q : QuoteStyle) (c : Char) : List Char :=
  match q.letter? c with
  | some l => ['\\', l]
  | none => if q.isCoded c then '\\' :: q.code c.toNat else [c]

def QuoteStyle.enclose (q : QuoteStyle) (chars : List Char) : String :=
  String.ofList (q.quote :: chars.flatMap q.escape ++ [q.quote])

/-- The style of debug text, for texts in double quotes and characters in single ones. Only the
quote that encloses the text is escaped, and what leaves no mark is written by its code. -/
def debugStyle (quote : Char) : QuoteStyle where
  quote := quote
  letter? c :=
    if c = quote ∨ c = '\\' then some c
    else if c = '\n' then some 'n'
    else if c = '\t' then some 't'
    else if c = '\r' then some 'r'
    else if c = '\x00' then some '0'
    else none
  isCoded := isHidden
  code n := ['u', '\x7b'] ++ Nat.toDigits 16 n ++ ['\x7d']

def debugString (s : String) : String :=
  (debugStyle '"').enclose s.toList

def debugChar (c : Char) : String :=
  (debugStyle '\'').enclose [c]

/-- Four digits, which reach all control characters. -/
def fourDigits (n : Nat) : List Char :=
  let digits := Nat.toDigits 16 n
  List.replicate (4 - digits.length) '0' ++ digits

def jsonStyle : QuoteStyle where
  quote := '"'
  letter? c :=
    if c = '"' ∨ c = '\\' then some c
    else if c = '\n' then some 'n'
    else if c = '\t' then some 't'
    else if c = '\r' then some 'r'
    else if c.toNat = 8 then some 'b'
    else if c.toNat = 12 then some 'f'
    else none
  isCoded c := c.toNat < 0x20
  code n := 'u' :: fourDigits n

def jsonString (s : String) : String :=
  jsonStyle.enclose s.toList

end Beans.Text
