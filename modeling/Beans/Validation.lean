import Beans.Error
import Beans.Value.Basic
/-!
# Validation

The checks that a property may declare for its value: that it is not null, and that it is not empty
either.
-/

set_option autoImplicit false

namespace Beans

namespace Value

mutual

/-- Whether the value is an empty text or container, or holds nothing but one. -/
def isEmpty : Value → Bool
  | scalar (.string s) => s.isEmpty
  | option _ content => contentIsEmpty content
  | list _ items | set _ _ items => items.isEmpty
  | map _ _ _ entries => entries.isEmpty
  | scalar _ | leaf _ _ | bean _ _ => false
termination_by structural x => x

def contentIsEmpty : Option Value → Bool
  | none => true
  | some v => v.isEmpty
termination_by structural x => x

end

end Value

inductive Check where
  | notNull
  | notEmpty
deriving DecidableEq, Repr

namespace Check

def run (c : Check) (name : String) : Option Value → Except MemberError Value
  | none => .error (.nullValue name)
  | some v =>
    if c = .notEmpty && v.isEmpty then .error (.validation s!"{name} must not be empty") else .ok v

end Check

end Beans
