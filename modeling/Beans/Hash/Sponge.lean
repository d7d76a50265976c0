import Beans.Hash.Write
/-!
# The standard hash function

Numbers are packed side by side into 128 bits, without regard to where one ends, and a full pack is
folded into the state. So a number hashes alike in all widths that hold it. Bytes are folded into the
state in words of eight, after a turn of the state by their number.
-/

set_option autoImplicit false

namespace Beans

structure Sponge where
  state : UInt64
  /-- The numbers not folded yet, the first one lowest. -/
  pending : Nat
  filled : Nat

namespace Sponge

def seed : UInt64 := 0x9e3779b97f4a7c15

def start : Sponge := ⟨0x5deece66d1ce4e5b, 0, 0⟩

/-- The two halves of the product of two words, put on top of each other. -/
def fold (a b : UInt64) : UInt64 :=
  let product := a.toNat * b.toNat
  (product % Nat.pow 2 64 ^^^ product / Nat.pow 2 64).toUInt64

def squeeze (s : Sponge) : UInt64 :=
  fold (s.state ^^^ s.pending.toUInt64) (seed ^^^ (s.pending >>> 64).toUInt64)

def absorbNumber (s : Sponge) (width n : Nat) : Sponge :=
  if 128 < s.filled + width then ⟨s.squeeze, n, width⟩
  else { s with pending := s.pending ||| n <<< s.filled, filled := s.filled + width }

/-- Up to eight bytes as a word, the first one lowest. -/
def wordOf (bytes : List UInt8) : UInt64 :=
  bytes.foldr (fun b w => w <<< 8 ||| b.toUInt64) 0

def absorbWords (state : UInt64) : Nat → List UInt8 → UInt64
  | 0, _ => state
  | fuel + 1, bytes =>
    let state := fold (state ^^^ wordOf (bytes.take 8)) 0xd6e8feb86659fd93
    if 8 < bytes.length then absorbWords state fuel (bytes.drop 8) else state

def absorbBytes (s : Sponge) (bytes : List UInt8) : Sponge :=
  let n := bytes.length.toUInt64 % 64
  let turned := if n = 0 then s.state else s.state >>> n ||| s.state <<< (64 - n)
  { s with state := absorbWords (turned + bytes.length.toUInt64) (bytes.length + 1) bytes }

def absorb (s : Sponge) : HashWrite → Sponge
  | .number width n => s.absorbNumber width n
  | .bytes bytes => s.absorbBytes bytes

def finish (s : Sponge) : UInt64 :=
  if s.filled = 0 then s.state else s.squeeze

end Sponge

/-- The hash function that is used unless another one is named. -/
def HashFunction.standard : HashFunction := fun writes =>
  (writes.foldl Sponge.absorb Sponge.start).finish

end Beans
