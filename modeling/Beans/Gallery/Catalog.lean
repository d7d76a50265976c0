import Beans.Declaration.Schema
import Beans.Gallery.Items
import Beans.Gallery.Leaves
import Beans.Registry
import Beans.Text.Upper
/-!
# The gallery

The beans of the gallery with their schemas, which come from their declarations. Two of them have a
schema of their own, one of which extends the other. Beside them are four row types, whose schemas are
given from outside.
-/

set_option autoImplicit false

namespace Beans.Gallery

structure Exhibit where
  type : BeanType
  kind : AccessorKind
  isAutoRegistered : Bool
  schema : Schema
  fieldTypes : List Ty

/-! ### Functions of beans -/

def textIn (b : Bean) (cell : Nat) : Option String :=
  match (b.cell? cell).bind Value.content? with
  | some (.scalar (.string s)) => some s
  | _ => none

/-- An integer, or else 0. -/
def integerOf : Value → Int
  | .scalar (.int _ n) => n
  | _ => 0

def integerIn (b : Bean) (cell : Nat) : Int :=
  ((b.cell? cell).map integerOf).getD 0

/-- The name of a gauge, or `gauge`, with its pressure. -/
def gaugeLabel : Compute := fun b =>
  let name := (textIn b 1).getD "gauge"
  let pressure := toString (integerIn b 0)
  .ofString s!"{name} at {pressure}"

def panelTotal : Compute := fun b =>
  .ofInt .u64 <| match b.cell? 7 with
    | some (.list _ items) => items.foldr (fun item total => integerOf item + total) 0
    | _ => 0

def panelAlias : Compute := fun b =>
  .option .string ((textIn b 2).map fun s => .ofString (Text.upper s))

/-! ### Schemas of their own -/

/-- Declares a getter of the name of a bean's type, which works on all beans. -/
def shapeSchema (type : BeanType) : Schema where
  type := type
  methods := [{
    name := "get_kind"
    body := .getter .string fun b => .ok (some (.ofString b.type.name)) }]

/-- Takes the arguments of a square, of which the kind is dropped. -/
def takeSquare (type : BeanType) : TakeM Bean := do
  let _ ← Arguments.take .string 0
  return ⟨type, [some (← Arguments.take (.int .u32) 1)]⟩

/-- The kind of a square comes from what its schema extends. -/
def squareSchema (type : BeanType) (parent : Schema) : Schema where
  type := type
  ancestors := parent.asAncestors
  fields := [
    { name := "kind", type := .string, style := some .accessor },
    { name := "side", type := .int .u32, style := some .field,
      reader := some ((MemberRead.whole 0).reader type) },
    { name := "origin", type := .int .u32, style := some .field, isInherited := true },
    { name := "COUNT", type := .int .u32, style := some .field, isStatic := true }]
  constructors := [{
    params := [.string, .int .u32]
    invoke := fun a => ((takeSquare type).run a).1 }]

def ownSchema? (exhibits : List Exhibit) (path : String) (type : BeanType) : Option Schema :=
  match path with
  | "shape_schema" => some (shapeSchema type)
  | "square_schema" => do
    let parent ← exhibits.find? (·.type.name == "Shape")
    return squareSchema type parent.schema
  | _ => none

/-! ### The exhibits -/

def home : String :=
  "oracle::beans"

def declaredType? (exhibits : List Exhibit) (name : String) : Option Ty :=
  ((leafTypes.find? (·.name == name)).map .leaf)
    <|> ((exhibits.find? (·.type.name == name)).map (.bean ·.type))

def function? : String → Option Compute
  | "Gauge::label" => some gaugeLabel
  | "Panel::total" => some panelTotal
  | "Panel::alias" => some panelAlias
  | _ => none

def annotation? : String → Option Value
  | "label(\"rpm\")" => some (labelValue "rpm")
  | "label(\"bar\")" => some (labelValue "bar")
  | "label(\"place\")" => some (labelValue "place")
  | "10u8" => some (.ofInt .u8 10)
  | "11u8" => some (.ofInt .u8 11)
  | _ => none

def scope (exhibits : List Exhibit) : Scope where
  type? := Ty.ofName? (declaredType? exhibits)
  function? := function?
  annotation? := annotation?

/-- The value a field of the type has when nothing else is said: a zero, or an empty text, option or
container. -/
def default? : Ty → Option Value
  | .scalar .string => some (.ofString "")
  | .scalar s => (Value.zeroOfScalar? s).map .scalar
  | .option t => some (.option t none)
  | .list t => some (.list t [])
  | .set s t => some (.set s t [])
  | .map s k v => some (.map s k v [])
  | .leaf _ | .bean _ => none

/-- The exhibit of an item, whose fields have the defaults of their types. -/
def exhibit? (exhibits : List Exhibit) (item : Declaration.Item) : Option Exhibit := do
  let d ← ((scope exhibits).resolve (← item.read.toOption))
  let type := d.beanType home
  let schema ← match d.schema with
    | some path => ownSchema? exhibits path type
    | none => some (d.schemaWith home (d.fields.map fun f => default? f.fieldType))
  return {
    type
    kind := d.kind
    isAutoRegistered := d.isAutoRegistered
    schema
    fieldTypes := d.fields.map (·.fieldType) }

def exhibits : List Exhibit :=
  items.foldl (fun before item => before ++ (exhibit? before item).toList) []

/-! ### Rows -/

def rowType (name : String) : BeanType where
  home := "dynamic"
  name := name
  layout := .row

def rowTypes : List BeanType :=
  ["D0", "D1", "D2", "D3"].map rowType

/-! ### The catalog -/

def beanTypes : List BeanType :=
  exhibits.map (·.type) ++ rowTypes

def typeOfName? (name : String) : Option Ty :=
  Ty.ofName? (fun n => declaredType? exhibits n
    <|> ((rowTypes.find? (·.name == n)).map .bean)) name

/-- The gallery with the schemas of some row types. Others have one without members. -/
def catalog (rows : Table BeanType Schema) : Catalog where
  schemaOf type :=
    match exhibits.find? (·.type == type) with
    | some e => e.schema
    | none => (rows.get? type).getD { type }
  declaredKind type := ((exhibits.find? (·.type == type)).map (·.kind)).getD .handle
  autoRegistered := (exhibits.filter (·.isAutoRegistered)).map (·.type)

end Beans.Gallery
