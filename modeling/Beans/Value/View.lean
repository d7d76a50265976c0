import Beans.Value.Debug
/-!
# Views of values

A view shows the shape of a value and its parts, for code that walks values without knowing their
types.
-/

set_option autoImplicit false

namespace Beans

inductive View where
  | leaf (v : Value)
  | optional (content : Option Value)
  | list (items : List Value)
  | set (items : List Value)
  | map (entries : List (Value × Value))
  | bean (b : Bean)

def Value.view : Value → View
  | scalar s => .leaf (scalar s)
  | leaf l c => .leaf (leaf l c)
  | option _ content => .optional content
  | list _ items => .list items
  | set _ _ items => .set items
  | map _ _ _ entries => .map entries
  | bean b cells => .bean ⟨b, cells⟩

namespace View

variable [Traits]

def kind : View → String
  | leaf _ => "Opaque"
  | optional _ => "Optional"
  | list _ => "List"
  | set _ => "Set"
  | map _ => "Map"
  | bean _ => "Bean"

def size? : View → Option Nat
  | optional content => some content.toList.length
  | list items | set items => some items.length
  | map entries => some entries.length
  | leaf _ | bean _ => none

def bean? : View → Option Bean
  | bean b => some b
  | _ => none

def debug (w : View) : String :=
  Text.debugTuple w.kind <| List.singleton <|
    match w with
    | leaf v => v.debug
    | optional content => Value.debug? content
    | list items | set items => Text.debugList (items.map Value.debug)
    | map entries =>
      Text.debugList (entries.map fun e => Text.debugTuple "" [e.1.debug, e.2.debug])
    | bean b => b.toValue.debug

end View

end Beans
