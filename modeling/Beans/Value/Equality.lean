import Beans.Value.Traits
/-!
# Equality of values

Values of different types are unequal. Floating-point numbers are compared as numbers, so what is
not a number differs from itself. A hashed set equals another one that has as many elements and all
of its own, a hashed map one whose entry under each of its keys is equal. Leaves are compared as their
type does it, and so are beans whose type has an equality of its own.
-/

set_option autoImplicit false

namespace Beans

def ScalarValue.equal : ScalarValue → ScalarValue → Bool
  | float f a, float g b => f == g && f.equal a b
  | a, b => a == b

def LeafContent.equal : LeafContent → LeafContent → Bool
  | wrapper a, wrapper b => a.equal b
  | choice i, choice j => i == j
  | pair a c, pair b d => a.equal b && c.equal d
  | _, _ => false

namespace Value

variable [Traits]

mutual

def equal : Value → Value → Bool
  | scalar a, scalar b => a.equal b
  | leaf s a, leaf t b => s == t && (Traits.leaf s).equal a b
  | option s a, option t b => s == t && equalContent a b
  | list s a, list t b => s == t && equalItems a b
  | set storage s a, set storage' t b =>
    storage == storage' && s == t && match storage with
      | .sorted => equalItems a b
      | .hashed => a.length == b.length && allAmong b a
  | map storage s s' a, map storage' t t' b =>
    storage == storage' && s == t && s' == t' && match storage with
      | .sorted => equalEntries a b
      | .hashed => a.length == b.length && entriesAmong b a
  | bean s a, bean t b => s == t && match Traits.ownEqual? s with
    | some own => own a b
    | none => equalCells a b
  | _, _ => false
termination_by structural x => x

def equalContent : Option Value → Option Value → Bool
  | none, none => true
  | some a, some b => a.equal b
  | _, _ => false
termination_by structural x => x

def equalItems : List Value → List Value → Bool
  | [], [] => true
  | a :: as, b :: bs => a.equal b && equalItems as bs
  | _, _ => false
termination_by structural x => x

def allAmong (items : List Value) : List Value → Bool
  | [] => true
  | a :: as => items.any (a.equal ·) && allAmong items as
termination_by structural x => x

def equalEntries : List (Value × Value) → List (Value × Value) → Bool
  | [], [] => true
  | (k, v) :: as, (k', v') :: bs => k.equal k' && v.equal v' && equalEntries as bs
  | _, _ => false
termination_by structural x => x

/-- Whether the list has, under the key of each of the entries, an equal value. -/
def entriesAmong (entries : List (Value × Value)) : List (Value × Value) → Bool
  | [] => true
  | (k, v) :: as =>
    (entries.find? (k.equal ·.1)).any (v.equal ·.2) && entriesAmong entries as
termination_by structural x => x

def equalCells : List (Option Value) → List (Option Value) → Bool
  | [], [] => true
  | a :: as, b :: bs => equalContent a b && equalCells as bs
  | _, _ => false
termination_by structural x => x

end

end Value

end Beans
