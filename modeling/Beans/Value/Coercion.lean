import Beans.Value.Basic
/-!
# Coercion

A value is coerced to a type by adding `Option` layers around it or by taking some away. Layers that
hold nothing turn into absence. Types that differ in more than their `Option` layers do not coerce.
-/

set_option autoImplicit false

namespace Beans.Value

/-- The value under the `Option` layers that lead from its own type up to the target. -/
def wrapInto (v : Value) (target : Ty) : Value :=
  if target = v.type then v
  else match target with
    | .option item => .option item (some (v.wrapInto item))
    | _ => v

theorem type_wrapInto (v : Value) (target : Ty) (h : target.isAssignableFrom v.type = true) :
    (v.wrapInto target).type = target := by
  unfold wrapInto
  split
  · simp_all
  · rename_i ne
    cases target with
    | option item => rfl
    | _ => simp [Ty.isAssignableFrom, ne] at h

mutual

/-- Turns a value into one of the target type, or into absence. An unrelated value is refused, and the
refusal holds what was found under its `Option` layers. -/
def coerce (target : Ty) (v : Value) : Except Value (Option Value) :=
  if target.isAssignableFrom v.type then .ok (some (v.wrapInto target))
  else match v with
    | option _ content => coerceContent target content
    | v => .error v
termination_by structural v

def coerceContent (target : Ty) (content : Option Value) : Except Value (Option Value) :=
  match content with
  | none => .ok none
  | some v => v.coerce target
termination_by structural content

end

end Beans.Value
