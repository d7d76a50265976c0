/-!
# Hash functions

A hash function is given a sequence of writes, each a number of some width or a run of bytes, and
answers with a 64-bit word. What is hashed is described as such a sequence, so that any hash function
can be put under it.
-/

set_option autoImplicit false

namespace Beans

inductive HashWrite where
  /-- A number below `2 ^ width`. -/
  | number (width : Nat) (n : Nat)
  | bytes (bytes : List UInt8)
deriving DecidableEq, Repr

abbrev HashFunction := List HashWrite → UInt64

namespace HashWrite

abbrev word (n : UInt64) : HashWrite := .number 64 n.toNat

abbrev size (n : Nat) : HashWrite := .number 64 n

abbrev byte (n : Nat) : HashWrite := .number 8 n

def text (s : String) : HashWrite :=
  .bytes s.toUTF8.toList

/-- A string among other writes: a last byte that no text contains ends it. -/
def string (s : String) : List HashWrite :=
  [text s, byte 0xff]

end HashWrite

end Beans
