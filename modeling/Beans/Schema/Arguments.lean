import Beans.Error
import Beans.Value.Debug
/-!
# Constructor arguments

The arguments of a call to a constructor are taken out one by one, by position and type. Taking an
argument empties its place, also when it turns out to have another type.
-/

set_option autoImplicit false

namespace Beans

structure Arguments where
  /-- The path of the bean type that is built. -/
  bean : String
  slots : List (Option Value)

abbrev TakeM := ExceptT MemberError (StateM Arguments)

namespace Arguments

def size (a : Arguments) : Nat :=
  a.slots.length

/-- Takes the argument at a position out, if it is one of the type. -/
def take? (type : Ty) (index : Nat) : TakeM (Option Value) := fun a =>
  match a.slots[index]? with
  | none => (.error (.missingArgument a.bean index a.size), a)
  | some none => (.ok none, a)
  | some (some v) =>
    let left := { a with slots := a.slots.set index none }
    if v.type = type then (.ok (some v), left)
    else (.error (.wrongArgument a.bean index type v.type), left)

def take (type : Ty) (index : Nat) : TakeM Value := do
  match ← take? type index with
  | some v => return v
  | none => throw (.nullArgument (← get).bean index)

def debug [Traits] (a : Arguments) : String :=
  Text.debugRecord "Args"
    [("bean", Text.debugString a.bean), ("slots", Text.debugList (a.slots.map Value.debug?))]

end Arguments

end Beans
