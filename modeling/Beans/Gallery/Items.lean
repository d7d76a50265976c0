import Beans.Declaration.Item
/-!
# Items of the gallery

The declarations of the beans of the gallery. Each shows some of what can be declared; beans that others
hold come first.
-/

set_option autoImplicit false

namespace Beans.Gallery

open Declaration

def property (name type : String) (arguments : List Argument := []) : ItemField where
  name := name
  type := type
  attributes := [⟨"property", arguments, false⟩]

def plain (name type : String) : ItemField := ⟨name, type, []⟩

def record (name : String) (options : List Argument) (fields : List ItemField) : Item where
  name := name
  attributes := [⟨"bean", options, false⟩]
  fields := fields

def get (style : String) : Argument := .text "get" style

def validate (check : String) : Argument := .text "validate" check

def accessor (kind : String) : Argument := .text "accessor" kind

def isMutable : Argument := .word "mutable"

def isAutoRegistered : Argument := .word "auto_register"

def person : Item :=
  record "Person" [] [
    property "forename" "Option<String>",
    property "surname" "String" [validate "not_null"]]

def personView : Item :=
  record "PersonView" [accessor "reflective"] [
    property "surname" "String" [get "field"],
    property "forename" "Option<String>" [get "optional"]]

def personCode : Item :=
  record "PersonCode" [] [
    property "forename" "Option<u32>",
    property "surname" "Option<String>" [get "wrapped"]]

def address : Item :=
  record "Address" [accessor "handle"] [
    property "number" "i32",
    property "flag" "bool",
    property "street" "String" [get "field", validate "not_null"],
    property "town" "Option<String>" [get "wrapped"],
    property "city" "String" [validate "not_null"],
    property "owner" "Option<Person>" [get "optional"],
    property "list" "Vec<String>",
    property "currency" "Option<Currency>"]

def gauge : Item :=
  record "Gauge" [isMutable, .derived "label" "String" "Gauge::label", .attached "label(\"rpm\")"] [
    property "pressure" "u32" [.attached "label(\"bar\")"],
    property "name" "Option<String>",
    property "active" "bool" [get "field"],
    plain "samples" "Vec<u32>"]

def tally : Item :=
  record "Tally" [accessor "handle"] [
    property "count" "Option<i32>",
    property "enabled" "Option<bool>",
    property "total" "i64"]

def town : Item :=
  record "Town" [accessor "reflective", isAutoRegistered] [
    property "name" "String" [.attached "10u8", .attached "label(\"place\")", .attached "11u8"],
    plain "hidden" "u8"]

def ledger : Item :=
  record "Ledger" [isAutoRegistered] [
    property "entries" "Vec<i64>"]

def ticket : Item :=
  record "Ticket" [isAutoRegistered, isMutable, accessor "handle"] [
    property "seat" "u16"]

def scalars : Item :=
  record "Scalars" [] [
    property "b" "bool", property "c" "char",
    property "n_u8" "u8", property "n_u16" "u16", property "n_u32" "u32", property "n_u64" "u64",
    property "n_u128" "u128", property "n_usize" "usize",
    property "n_i8" "i8", property "n_i16" "i16", property "n_i32" "i32", property "n_i64" "i64",
    property "n_i128" "i128", property "n_isize" "isize",
    property "f_32" "f32", property "f_64" "f64", property "s" "String"]

def basket : Item :=
  record "Basket" [] [
    property "title" "String" [validate "not_empty"],
    property "names" "Vec<String>" [validate "not_empty"],
    property "tags" "BTreeSet<String>" [validate "not_null"],
    property "index" "BTreeMap<String, Vec<u32>>" [validate "not_empty"],
    property "nick" "Option<String>" [validate "not_empty"],
    property "weight" "Option<f64>" [validate "not_null", get "wrapped"],
    property "counts" "HashMap<String, i32>",
    property "seen" "HashSet<u8>"]

def panel : Item where
  name := "Panel"
  attributes := [
    ⟨"bean", [isMutable, accessor "handle"], false⟩,
    ⟨"bean", [.derived "total" "u64" "Panel::total", .derived "alias" "Option<String>" "Panel::alias"],
      false⟩]
  fields := [
    property "lit" "Option<bool>",
    property "level" "Option<u32>" [get "wrapped"],
    property "note" "Option<String>" [get "optional"],
    property "offset" "i64" [get "field"],
    property "flag" "bool",
    property "owner" "Option<Person>",
    property "r#type" "String",
    property "bytes" "Vec<u8>"]

def nest : Item :=
  record "Nest" [] [
    property "two" "Option<Option<i32>>",
    property "three" "Option<Option<i32>>" [get "wrapped"],
    property "list" "Vec<Option<i32>>"]

def car : Item :=
  record "Car" [] [
    property "colour" "Weight",
    property "code" "Option<Code>"]

def garage : Item :=
  record "Garage" [] [
    property "owner" "Option<Person>",
    property "tenant" "Option<Person>" [get "wrapped"],
    property "cars" "Vec<Car>",
    property "slots" "BTreeMap<String, Vec<u8>>",
    property "people" "BTreeMap<String, Person>",
    property "open" "bool"]

def estate : Item :=
  record "Estate" [] [
    property "main" "Garage",
    property "spare" "Option<Garage>" [get "wrapped"],
    property "address" "Option<Address>" [get "optional"]]

def empty : Item :=
  record "Empty" [] []

def shape : Item :=
  record "Shape" [.path "schema" "shape_schema"] []

def square : Item :=
  record "Square" [.path "schema" "square_schema"] [
    plain "side" "u32"]

def items : List Item :=
  [person, personView, personCode, address, gauge, tally, town, ledger, ticket, scalars, basket, panel,
   nest, car, garage, estate, empty, shape, square]

end Beans.Gallery
