import Beans.Registry
import Beans.Value.Order
/-!
# Queries

A query finds a value in a bean: that of one property, or the one at the end of a path of properties,
each of which leads to the bean that the next one is read from. A path ends early, without a value,
where it meets null or an `Option` that holds nothing. A comparator orders beans by what a query finds.
-/

set_option autoImplicit false

namespace Beans

inductive Query where
  | property (name : String)
  | path (names : List String)
deriving DecidableEq, Repr

inductive Link where
  | bean (b : Bean)
  | absent
  | other

namespace Value

mutual

/-- The bean under all `Option` layers. -/
def link : Value → Link
  | bean b cells => .bean ⟨b, cells⟩
  | option _ content => linkContent content
  | scalar _ | leaf _ _ | list _ _ | set _ _ _ | map _ _ _ _ => .other
termination_by structural x => x

def linkContent : Option Value → Link
  | none => .absent
  | some v => v.link
termination_by structural x => x

end

end Value

namespace Registry

def queryProperty (r : Registry) (name : String) (b : Bean) : LookupM (Option Value) := do
  let d ← r.lookupBean b
  ofExcept do (← d.property name).get b

/-- Follows a path on from the value that the property `previous` has. -/
def follow (r : Registry) (previous : String) (current : Option Value) :
    List String → LookupM (Option Value)
  | [] => return current
  | name :: rest =>
    match current with
    | none => return none
    | some v =>
      match v.link with
      | .bean b => do r.follow name (← r.queryProperty name b) rest
      | .absent => return none
      | .other => throw (.notABean previous v.type)

def query (r : Registry) (q : Query) (b : Bean) : LookupM (Option Value) :=
  match q with
  | .property name => r.queryProperty name b
  | .path [] => return none
  | .path (name :: rest) => do r.follow name (← r.queryProperty name b) rest

end Registry

/-- The order of what a query found in two beans: nothing comes first, and values without an order
count as equal. -/
def compareFound [Traits] : Option Value → Option Value → Ordering
  | some v, some w => (v.compare? w).getD .eq
  | none, none => .eq
  | none, some _ => .lt
  | some _, none => .gt

namespace Registry

/-- What a query finds in a bean. A failure counts as nothing. -/
def found (r : Registry) (q : Query) (b : Bean) : RegistryM (Option Value) := do
  return ((← (r.query q b).run).toOption).join

def comparator [Traits] (r : Registry) (q : Query) (isAscending : Bool) (a b : Bean) :
    RegistryM Ordering := do
  let v ← r.found q a
  let w ← r.found q b
  let order := compareFound v w
  return if isAscending then order else order.swap

end Registry

/-! ### Sorting -/

/-- Puts an element in front of those that it does not precede, in a list that is read from its
end. -/
def insertBackward {α : Type} {m : Type → Type} [Monad m] (order : α → α → m Ordering) (a : α) :
    List α → m (List α)
  | [] => return [a]
  | b :: rest => do
    if (← order a b) = .lt then return b :: (← insertBackward order a rest)
    else return a :: b :: rest

/-- Sorts a list by inserting its elements one by one, each behind those that it does not precede. -/
def sortStable {α : Type} {m : Type → Type} [Monad m] (order : α → α → m Ordering) (l : List α) :
    m (List α) := do
  return (← l.foldlM (fun sorted a => insertBackward order a sorted) []).reverse

namespace Query

def orderName : Ordering → String
  | .lt => "less"
  | .eq => "equal"
  | .gt => "greater"

def debugProperty (name : String) : String :=
  Text.debugRecord "PropertyQuery" [("name", Text.debugString name)]

def debug : Query → String
  | property name => debugProperty name
  | path names =>
    Text.debugRecord "ChainedQuery" [("steps", Text.debugList (names.map debugProperty))]

end Query

end Beans
