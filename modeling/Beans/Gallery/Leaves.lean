import Beans.Converter
import Beans.Value.Debug
import Beans.Value.Equality
import Beans.Value.Hash
/-!
# Leaf types of the gallery

The leaf types that the beans of the gallery are made of, with their traits, and the reading of those
that have a text form.
-/

set_option autoImplicit false

namespace Beans.Gallery

def currency : LeafType where
  path := "money::Currency"
  shape := .choice ["Gbp", "Usd"]

def weight : LeafType where
  path := "tests::units::Weight"
  shape := .wrapper (.float .single)

def code : LeafType where
  path := "Code"
  shape := .wrapper (.int .u16)

def rank : LeafType where
  path := "units::Rank"
  shape := .wrapper (.int .u8)

def label : LeafType where
  path := "demo::Label"
  shape := .wrapper .string

def leafTypes : List LeafType :=
  [currency, weight, code, rank, label]

/-! ### Traits -/

/-- The position of a name. -/
def choiceOf : LeafContent → Nat
  | .choice i => i
  | _ => 0

def wrappedNumber : LeafContent → Int
  | .wrapper (.int _ n) => n
  | _ => 0

def wrappedText : LeafContent → String
  | .wrapper (.string s) => s
  | _ => ""

/-- A name, or a scalar in the brackets of its type. -/
def debugLeaf (l : LeafType) (c : LeafContent) : String :=
  match l.shape, c with
  | .choice names, .choice i => names.getD i l.name
  | _, .wrapper s => Text.debugTuple l.name [s.debug]
  | _, _ => l.name

/-- The traits of a leaf type. Weights are the only ones that are compared as floats. -/
def leafTraits (l : LeafType) : LeafTraits :=
  if l = currency then
    .byKey choiceOf (some fun i => [.number 64 i]) true (debugLeaf l)
  else if l = code then
    .byKey wrappedNumber (some fun n => (ScalarValue.int .u16 n).writes) true (debugLeaf l)
  else if l = rank then
    .byKey wrappedNumber none true (debugLeaf l)
  else if l = label then
    .byKey wrappedText (some HashWrite.string) false (debugLeaf l)
  else
    { equal := LeafContent.equal, writes? := none, order? := none, debug := debugLeaf l }

/-- The traits of the gallery, whose beans are compared cell by cell. -/
instance traits : Traits where
  leaf := leafTraits
  ownEqual? _ := none

def currencyTexts : List String :=
  ["GBP", "USD"]

def readCurrency : TextReader := fun text =>
  match currencyTexts.idxOf? text with
  | some i => .ok (.leaf currency (.choice i))
  | none => .error .name

/-- Codes are written in base 16. -/
def readCode : TextReader := fun text =>
  ((IntKind.u16.read 16 text).map fun n => .leaf code (.wrapper (.int .u16 n))).mapError .int

def reader? : Ty → Option TextReader
  | .scalar s => some (Converter.readScalar s)
  | .leaf l =>
    if l = currency then some readCurrency else if l = code then some readCode else none
  | _ => none

def labelValue (s : String) : Value :=
  .leaf label (.wrapper (.string s))

end Beans.Gallery
