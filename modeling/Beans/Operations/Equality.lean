import Beans.Registry
import Beans.Value.Equality
import Beans.Value.Hash
/-!
# Equality of beans by their properties

Beans of different types may be equal by their properties: it is enough that they have the same ones
with the same values. The hash that goes with it does not depend on the order of the properties.
-/

set_option autoImplicit false

namespace Beans

variable [Traits]

/-- Whether each of the properties has, in the first bean, the value that the one paired with it has in
the second bean. A property that is paired with none has not. -/
def sameValues (a b : Bean) : List (Property × Option Property) → Except BeanError Bool
  | [] => .ok true
  | (_, none) :: _ => .ok false
  | (p, some q) :: rest => do
    let v ← p.get a
    let w ← q.get b
    if Value.equalContent v w then sameValues a b rest else return false

namespace Registry

def propertiesEqual (r : Registry) (a b : Bean) : LookupM Bool := do
  let d ← r.lookupBean a
  let e ← r.lookupBean b
  if d.properties.length ≠ e.properties.length then return false
  ofExcept <| sameValues a b <|
    d.properties.map fun p => (p, e.properties.find? (·.name == p.name))

/-- Whether two beans of one type have equal values for all properties but the ignored ones. -/
def equalIgnoring (r : Registry) (ignored : List String) (a b : Bean) : LookupM Bool := do
  if a.type ≠ b.type then return false
  let d ← r.lookupBean a
  ofExcept <| sameValues a b <|
    (d.properties.filter fun p => !ignored.contains p.name).map fun p => (p, some p)

def hashProperty (H : HashFunction) (name : String) (v : Option Value) : UInt64 :=
  H [.text name, .word ((v.map (Value.hash H)).getD 0)]

def propertiesHash (r : Registry) (H : HashFunction) (b : Bean) : LookupM UInt64 := do
  let d ← r.lookupBean b
  let values ← ofExcept (d.readAll b)
  return values.foldr (fun (name, v) sum => hashProperty H name v + sum) 0

end Registry

end Beans
