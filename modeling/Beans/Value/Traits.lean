import Beans.Hash.Write
import Beans.Value.Basic
/-!
# Traits of declared types

How the values of leaf types are compared, hashed, ordered and written is up to the program that declares
the types. It may also compare the beans of a type in a way of its own, instead of cell by cell.
-/

set_option autoImplicit false

namespace Beans

structure LeafTraits where
  equal : LeafContent → LeafContent → Bool
  /-- What a value hands to a hash function. Without this, all values of the type have one hash. -/
  writes? : Option (LeafContent → List HashWrite)
  order? : Option (LeafContent → LeafContent → Ordering)
  debug : LeafContent → String

/-- What a program says of the types that it declares. -/
class Traits where
  leaf : LeafType → LeafTraits
  ownEqual? : BeanType → Option (List (Option Value) → List (Option Value) → Bool)

/-- Values are told apart by a key of theirs, and so are they hashed and ordered if they are at all. -/
def LeafTraits.byKey {κ : Type} [BEq κ] [Ord κ] (key : LeafContent → κ)
    (writes? : Option (κ → List HashWrite)) (isOrdered : Bool) (debug : LeafContent → String) :
    LeafTraits where
  equal a b := key a == key b
  writes? := writes?.map fun writes c => writes (key c)
  order? := if isOrdered then some (compareOn key) else none
  debug := debug

end Beans
