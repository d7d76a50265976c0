import Beans.Proofs.Acceptance
import Beans.Proofs.DeclaredDescriptor
import Beans.Proofs.Stateful
/-!
# Access to declared fields

A property of a declared field reads what its field holds, and writes what its field can hold into the
cell of the field and nothing else. What can go wrong goes wrong before anything is written.
-/

set_option autoImplicit false

namespace Beans

theorem Bean.instanceOf_self (b : Bean) : b.instanceOf b.type = .ok b :=
  if_pos rfl

/-! ### Members -/

namespace MemberWrite

variable {b : Bean} {cell : Nat} {t : Ty} {name : String} {v : Option Value}

theorem writer_content {w : Option Value} (h : assignedOpt t v = .ok w) :
    (MemberWrite.content cell t).writer b.type v b =
      (.ok (), b.setCell cell (some (.option t w))) := by
  unfold writer
  rw [Stateful.bind_of_ok (Stateful.getThe_apply b), b.instanceOf_self,
    Stateful.bind_of_ok (Stateful.ofExcept_ok b b)]
  simp only [h]
  rfl

theorem writer_value {w : Value} (h : assigned t name v = .ok w) :
    (MemberWrite.value cell t name).writer b.type v b = (.ok (), b.setCell cell (some w)) := by
  unfold writer
  rw [Stateful.bind_of_ok (Stateful.getThe_apply b), b.instanceOf_self,
    Stateful.bind_of_ok (Stateful.ofExcept_ok b b)]
  simp only [h]
  rfl

theorem writer_value_of_error {e : MemberError} (h : assigned t name v = .error e) :
    (MemberWrite.value cell t name).writer b.type v b = (.error e, b) := by
  unfold writer
  rw [Stateful.bind_of_ok (Stateful.getThe_apply b), b.instanceOf_self,
    Stateful.bind_of_ok (Stateful.ofExcept_ok b b)]
  simp only [h]
  rfl

end MemberWrite

namespace DeclaredProperty

variable {q : DeclaredProperty Ty Value} {v : Option Value} {b : Bean}

theorem propertyRead_eq_ok (hfit : q.spec.getStyle = .wrapped → q.isNullable = true)
    (hcell : b.cell? q.cell = q.stored v) :
    q.propertyRead.lift.reader b.type b = .ok (q.shown v) := by
  unfold MemberRead.reader
  rw [b.instanceOf_self]
  by_cases hwrapped : q.spec.getStyle = .wrapped
  · rw [shown_of_wrapped hwrapped, ← stored_of_isNullable (hfit hwrapped), ← hcell, propertyRead,
      if_pos hwrapped]
    rfl
  · rw [shown_of_not_wrapped hwrapped, propertyRead, if_neg hwrapped, fieldRead]
    cases hnull : q.isNullable with
    | true =>
      rw [stored_of_isNullable hnull] at hcell
      simp only [if_true, MemberRead.lift, bind, Except.bind, hcell]
      rfl
    | false =>
      rw [stored_of_not_isNullable hnull] at hcell
      simp only [MemberRead.lift, bind, Except.bind, ← hcell]
      rfl

theorem fieldWrite_of_takes (hv : q.Takes v) :
    q.fieldWrite.writer b.type v b = (.ok (), b.setCell q.cell (q.stored v)) := by
  unfold fieldWrite
  cases hnull : q.isNullable with
  | true =>
    rw [stored_of_isNullable hnull, if_pos rfl]
    apply MemberWrite.writer_content
    cases v with
    | none => rfl
    | some w => exact if_pos (Ty.admits_some.mp hv.admits)
  | false =>
    rw [stored_of_not_isNullable hnull, if_neg Bool.false_ne_true]
    cases v with
    | none => exact absurd rfl (hv.present hnull)
    | some w => exact MemberWrite.writer_value (if_pos (Ty.admits_some.mp hv.admits))

theorem fieldWrite_null (hnull : q.isNullable = false) :
    q.fieldWrite.writer b.type none b = (.error (.nullValue q.name), b) := by
  unfold fieldWrite
  rw [hnull, if_neg Bool.false_ne_true]
  exact MemberWrite.writer_value_of_error rfl

end DeclaredProperty

/-! ### Properties -/

namespace Property.Declares

variable {q : DeclaredProperty Ty Value} {isMutable : Bool} {type : BeanType} {slot : Nat}
  {p : Property} {b : Bean} {v : Option Value}

theorem showsSlot (h : p.Declares q isMutable type slot) : p.ShowsSlot := by
  rw [ShowsSlot, h.type, h.slotType, DeclaredProperty.shownType]
  split
  · exact .inr rfl
  · exact .inl rfl

theorem accept?_shown (h : p.Declares q isMutable type slot) (hv : q.type.Admits v) :
    p.accept? (q.shown v) = .ok v := by
  have hslot : p.slotType.Admits v := h.slotType ▸ hv
  unfold DeclaredProperty.shown
  split
  · rw [← h.slotType]
    exact accept?_option hslot
  · exact accept?_of_admits hslot

theorem get_of_cell (h : p.Declares q isMutable b.type slot)
    (hfit : q.spec.getStyle = .wrapped → q.isNullable = true)
    (hcell : b.cell? q.cell = q.stored v) : p.get b = .ok (q.shown v) := by
  rw [Property.get, Property.checkBean, h.declaringType, if_pos rfl, h.accessor.read]
  change (q.propertyRead.lift.reader b.type b).mapError _ = _
  rw [DeclaredProperty.propertyRead_eq_ok hfit hcell]
  rfl

theorem write_of_takes (h : p.Declares q true b.type slot) (hv : q.Takes v) :
    p.accessor.write v b = (.ok (), b.setCell q.cell (q.stored v)) := by
  rw [h.accessor.write]
  change (ExceptT.adapt _ (q.fieldWrite.writer b.type v) : BeanM BeanError Unit) b = _
  rw [Stateful.adapt_apply, DeclaredProperty.fieldWrite_of_takes hv]
  rfl

theorem write_null (h : p.Declares q true b.type slot) (hnull : q.isNullable = false) :
    p.accessor.write none b = (.error (.invocationFailed q.name (.nullValue q.name)), b) := by
  rw [h.accessor.write]
  change (ExceptT.adapt _ (q.fieldWrite.writer b.type none) : BeanM BeanError Unit) b = _
  rw [Stateful.adapt_apply, DeclaredProperty.fieldWrite_null hnull]
  rfl

end Property.Declares

end Beans
