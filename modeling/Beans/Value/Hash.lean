import Beans.Hash.Sponge
import Beans.Ty.Name
import Beans.Value.Traits
/-!
# Hashes of values

The two zeros of a float are hashed as one. Hashed sets and maps have no order, so the hashes of their
parts are added up. A leaf type that is not hashed has one hash for all its values, and a bean is hashed
by its type and some of its cells.
-/

set_option autoImplicit false

namespace Beans

def ScalarValue.writes : ScalarValue → List HashWrite
  | bool b => [.byte b.toNat]
  | char c => [.number 32 c.toNat]
  | int k n => [.number k.width (k.toWord n)]
  | float f bits => [.number f.width (if f.isZero bits then 0 else bits)]
  | string s => HashWrite.string s

/-- Of what the cells of a bean give, that of the cells which take part in its hash. -/
def Layout.hashed {α : Type} : Layout → List α → List α
  | .record fields, l => ((fields.zip l).filter (·.1.isHashed)).map (·.2)
  | .row, l => l

namespace Value

variable [Traits] (H : HashFunction)

def hashOfPair (key value : UInt64) : UInt64 :=
  H [.word key, .word value]

def hashOfBag (hashes : List UInt64) : UInt64 :=
  H [.size hashes.length, .word (hashes.foldr (· + ·) 0)]

def hashOfList (hashes : List UInt64) : UInt64 :=
  H (.size hashes.length :: hashes.map .word)

/-- The hash of a set or a map: in a sorted one the order of the parts counts. -/
def hashOfStored : Storage → List UInt64 → UInt64
  | .sorted => hashOfList H
  | .hashed => hashOfBag H

/-- The hash of the cells of a bean that take part in it. A row counts the empty ones as well. -/
def hashOfCells (b : BeanType) (hashes : List (Option UInt64)) : UInt64 :=
  let hashed := b.layout.hashed hashes
  H <| .text b.path :: match b.layout with
    | .record _ => hashed.flatMap fun h => (h.map .word).toList
    | .row => .size hashed.length :: hashed.flatMap fun
      | none => [.byte 0]
      | some h => [.byte 1, .word h]

mutual

def hash : Value → UInt64
  | scalar s => H s.writes
  | leaf l c =>
    match (Traits.leaf l).writes? with
    | some writes => H (writes c)
    | none => H (HashWrite.string l.path)
  | option _ none => H [.byte 0]
  | option _ (some v) => H [.byte 1, .word v.hash]
  | list _ items => hashOfList H (hashItems items)
  | set storage _ items => hashOfStored H storage (hashItems items)
  | map storage _ _ entries => hashOfStored H storage (hashEntries entries)
  | bean b cells => hashOfCells H b (hashCells cells)
termination_by structural x => x

def hashItems : List Value → List UInt64
  | [] => []
  | v :: rest => v.hash :: hashItems rest
termination_by structural x => x

def hashEntries : List (Value × Value) → List UInt64
  | [] => []
  | (k, v) :: rest => hashOfPair H k.hash v.hash :: hashEntries rest
termination_by structural x => x

def hashCell : Option Value → Option UInt64
  | none => none
  | some v => some v.hash
termination_by structural x => x

def hashCells : List (Option Value) → List (Option UInt64)
  | [] => []
  | v :: rest => hashCell v :: hashCells rest
termination_by structural x => x

end

end Value

end Beans
