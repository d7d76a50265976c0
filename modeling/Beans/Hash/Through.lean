import Beans.Number.IntKind
/-!
# The hash function for words that are hashes already

The state is turned by a byte and the next byte added to it, the last byte of each run first, so that
a single run of up to eight bytes comes out as the number it spells, lowest byte first. A word replaces
the state.
-/

set_option autoImplicit false

namespace Beans.Through

/-- Turns the state left by one byte and adds a byte to it. -/
def push (state : UInt64) (b : UInt8) : UInt64 :=
  (state <<< 8 ||| state >>> 56) + b.toUInt64

def writeBytes (state : UInt64) (bytes : List UInt8) : UInt64 :=
  bytes.reverse.foldl push state

/-- The bytes of a number below `256 ^ count`, the lowest first. -/
def littleEndian : Nat → Nat → List UInt8
  | 0, _ => []
  | count + 1, n => (n % 256).toUInt8 :: littleEndian count (n / 256)

/-- The state after an integer. Those of 64 bits that are not sizes are words. -/
def writeInt (state : UInt64) (k : IntKind) (n : Int) : UInt64 :=
  match k with
  | .u64 | .i64 => (k.toWord n).toUInt64
  | _ => writeBytes state (littleEndian (k.width / 8) (k.toWord n))

/-- The state after a text, which ends with a byte that no text contains. -/
def writeText (state : UInt64) (s : String) : UInt64 :=
  writeBytes (writeBytes state s.toUTF8.toList) [0xff]

end Beans.Through
