import Beans.Table
import Beans.Value.Debug
/-!
# Annotations

Values attached to a bean type or to one of its members. There is at most one of each type.
-/

set_option autoImplicit false

namespace Beans

abbrev Annotations := Table Ty Value

namespace Annotations

/-- Adds an annotation, in place of one of the same type. -/
def add (a : Annotations) (v : Value) : Annotations :=
  a.insert v.type v

def ofList (l : List Value) : Annotations :=
  l.foldl add ∅

def debug [Traits] (a : Annotations) : String :=
  Text.debugSet (a.values.map Value.debug)

end Annotations

end Beans
