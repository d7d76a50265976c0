import Beans.Registry
/-!
# Copies of beans

A copy is a new bean of the same type, built from the values of all properties that can be set.
-/

set_option autoImplicit false

namespace Beans

namespace Builder

def setFrom (builder : Builder) (b : Bean) (properties : List Property) :
    Except BeanError Builder :=
  properties.foldlM (fun builder p => do builder.set p.name (← p.get b)) builder

end Builder

/-- Builds a bean with the same properties. -/
def Registry.copy (r : Registry) (b : Bean) : LookupM Bean := do
  let d ← r.lookupBean b
  let builder ← ofExcept (d.builder.setFrom b (d.properties.filter (·.isBuildable)))
  ofExcept (← (builder.build : Logged (Except BeanError Bean)))

end Beans
