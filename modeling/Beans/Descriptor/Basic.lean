import Beans.Converter
import Beans.Property
/-!
# Descriptors

A descriptor is what a schema amounts to under one strategy: its properties with their accessors, the
constructor that builds beans, and the values a builder starts with.
-/

set_option autoImplicit false

namespace Beans

/-- Properties in the order in which they were added, and the position of each under its name. -/
structure PropertyTable where
  properties : List Property
  index : Table String Nat
  indexed : ∀ name, index.get? name = properties.findIdx? (·.name == name)

namespace PropertyTable

instance : EmptyCollection PropertyTable where
  emptyCollection := { properties := [], index := ∅, indexed := fun _ => rfl }

theorem indexed_insert (t : PropertyTable) {p : Property} (h : ¬ t.index.contains p.name = true)
    (name : String) : (t.index.insert p.name t.properties.length).get? name =
      (t.properties ++ [p]).findIdx? (·.name == name) := by
  rw [Table.get?_insert, List.findIdx?_append, ← t.indexed]
  by_cases hname : p.name = name
  · subst hname
    have hnew : t.index.get? p.name = none := by
      simpa [Table.contains] using h
    simp [hnew]
  · simp [hname]

/-- Adds a property whose name is not taken. -/
def insert (t : PropertyTable) (type : BeanType) (p : Property) : Except BeanError PropertyTable :=
  if h : t.index.contains p.name then .error (.duplicateProperty type p.name)
  else .ok {
    properties := t.properties ++ [p]
    index := t.index.insert p.name t.properties.length
    indexed := t.indexed_insert h }

end PropertyTable

structure Descriptor extends PropertyTable where
  schema : Schema
  kind : AccessorKind
  constructor : Constructor
  /-- What the arguments of the constructor are before they are set. -/
  prototype : List (Option Value)
  converter : ConverterChoice

namespace Descriptor

def type (d : Descriptor) : BeanType :=
  d.schema.type

def isMutable (d : Descriptor) : Bool :=
  d.schema.isMutable

def propertyNames (d : Descriptor) : List String :=
  d.properties.map (·.name)

def find? (d : Descriptor) (name : String) : Option Property :=
  (d.index.get? name).bind (d.properties[·]?)

def contains (d : Descriptor) (name : String) : Bool :=
  d.index.contains name

theorem find?_eq (d : Descriptor) (name : String) :
    d.find? name = d.properties.find? (·.name == name) := by
  rw [find?, d.indexed, List.find?_eq_bind_findIdx?_getElem?]

def property (d : Descriptor) (name : String) : Except BeanError Property :=
  match d.find? name with
  | some p => .ok p
  | none => .error (.propertyNotFound d.type name)

def readAll (d : Descriptor) (b : Bean) : Except BeanError (List (String × Option Value)) :=
  d.properties.mapM fun p => return (p.name, ← p.get b)

/-- Descriptors are the same if they describe the same type. -/
def Same (d e : Descriptor) : Prop :=
  d.type = e.type

instance (d e : Descriptor) : Decidable (d.Same e) :=
  inferInstanceAs (Decidable (d.type = e.type))

def debug (d : Descriptor) : String :=
  Text.debugOpenRecord "BeanDescriptor"
    [("type", d.type.path), ("accessor", d.kind.debug),
     ("properties", Text.debugList (d.properties.map Property.debug))]

end Descriptor

end Beans
