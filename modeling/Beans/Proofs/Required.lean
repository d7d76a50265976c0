import Beans.Proofs.DeclaredBuilder
/-!
# Required properties

A declared bean that is not mutable is built exactly if each of its properties allows what the builder
holds for it, and else the first property that does not is reported. What no call has set is null, or the
zero of its type if the field is no `Option`.
-/

set_option autoImplicit false

namespace Beans

theorem exists_first_not {α : Type} {P : α → Prop} {l : List α} (h : ¬ ∀ a ∈ l, P a) :
    ∃ (i : Nat) (a : α), l[i]? = some a ∧ (∀ (j : Nat) (b : α), j < i → l[j]? = some b → P b) ∧
      ¬ P a := by
  induction l with
  | nil => exact absurd (fun _ ha => nomatch ha) h
  | cons a l ih =>
    by_cases ha : P a
    · have hl : ¬ ∀ b ∈ l, P b := fun hall => h (List.forall_mem_cons.mpr ⟨ha, hall⟩)
      obtain ⟨i, c, hc, hbefore, hnot⟩ := ih hl
      refine ⟨i + 1, c, hc, ?_, hnot⟩
      intro j b hj hb
      cases j with
      | zero =>
        cases hb
        exact ha
      | succ j => exact hbefore j b (Nat.lt_of_succ_lt_succ hj) hb
    · exact ⟨0, a, rfl, nofun, ha⟩

namespace Builder

variable {d : ResolvedDeclaration} {home : String} {defaults : List (Option Value)}
  {kind : AccessorKind} {D : Descriptor} {q : DeclaredProperty Ty Value} {b b' : Builder}

/-! ### Properties that are not set -/

/-- Some calls on a builder never set the property of a name: those that are to set it are refused. -/
def Unset (b : Builder) (calls : List Call) (name : String) : Prop :=
  ∀ c a, (c, a) ∈ calls.zip (b.run calls).1 → c.Sets name → a ≠ .done

namespace Collects

theorem get_call (h : b.Collects d home defaults) (hq : q ∈ d.properties) {c : Call}
    (hc : c.Sets q.name → (b.call c).1 ≠ .done) :
    (b.call c).2.Collects d home defaults ∧ (b.call c).2.get q.name = b.get q.name := by
  rcases b.call_cases c with ⟨_, hsame⟩ | ⟨name, v, hsets, _, hdone, hset⟩
  · rw [hsame]
    exact ⟨h, rfl⟩
  · refine ⟨h.set hset, h.get_of_set hset hq ?_⟩
    rintro rfl
    exact hc hsets hdone

theorem get_run (h : b.Collects d home defaults) (hq : q ∈ d.properties) {calls : List Call}
    (hcalls : b.Unset calls q.name) : (b.run calls).2.get q.name = b.get q.name := by
  induction calls generalizing b with
  | nil => rfl
  | cons c calls ih =>
    have hfirst : c.Sets q.name → (b.call c).1 ≠ .done := hcalls c _ List.mem_cons_self
    obtain ⟨hcall, hget⟩ := h.get_call hq hfirst
    have hrest : (b.call c).2.Unset calls q.name := fun c' a hmem =>
      hcalls c' a (List.mem_cons_of_mem _ hmem)
    exact (ih hcall hrest).trans hget

end Collects

theorem get_builder (himmutable : d.isMutable = false)
    (h : (Descriptor.ofSchema (d.schemaWith home defaults) kind).result = .ok D)
    (converter : ConverterChoice) (hq : q ∈ d.properties) :
    { D with converter }.builder.get q.name =
      .ok (if q.isNullable then none else Value.zero? q.type) := by
  have hcollects := collects_builder himmutable h converter
  obtain ⟨own, derived, hD⟩ := Descriptor.exists_declared h
  obtain ⟨i, hi⟩ := List.mem_iff_getElem?.mp hq
  obtain ⟨slot, hslot, _, hget⟩ := hcollects.get_eq hi
  have hslots : { D with converter }.builder.slots = D.prototype.map fun v => { value := v } := by
    change (if D.isMutable then _ else _) = _
    rw [hD.isMutable, himmutable, if_neg Bool.false_ne_true]
  rw [hslots, hD.prototype himmutable, List.map_map, List.getElem?_map, hi] at hslot
  cases hslot
  exact hget

/-! ### Building -/

/-- What building a declared bean from a builder comes to. -/
structure Requires (b : Builder) (d : ResolvedDeclaration) (type : BeanType) : Prop where
  held : ∀ q ∈ d.properties, ∃ v, b.get q.name = .ok v
  succeeds : (∃ bean, b.build.result = .ok bean) ↔
    ∀ q ∈ d.properties, ∀ v, b.get q.name = .ok v → q.Allows v
  /-- A failure is that of the first property that does not allow what is held for it. -/
  fails : ∀ e, b.build.result = .error e →
    ∃ (i : Nat) (q : DeclaredProperty Ty Value) (v : Option Value), d.properties[i]? = some q ∧
      b.get q.name = .ok v ∧ ¬ q.Allows v ∧
      (∀ (j : Nat) (q' : DeclaredProperty Ty Value) (v' : Option Value), j < i →
        d.properties[j]? = some q' → b.get q'.name = .ok v' → q'.Allows v') ∧
      e = .constructionFailed type (q.offence type.path i v)

theorem Collects.requires (h : b.Collects d home defaults) : b.Requires d (d.beanType home) := by
  have hcases : (∀ x ∈ b.given d, x.1.Allows x.2) ∨
      ∃ (i : Nat) (q : DeclaredProperty Ty Value) (v : Option Value),
        (b.given d)[i]? = some (q, v) ∧
        (∀ j x, j < i → (b.given d)[j]? = some x → x.1.Allows x.2) ∧ ¬ q.Allows v := by
    by_cases hall : ∀ x ∈ b.given d, x.1.Allows x.2
    · exact .inl hall
    · obtain ⟨i, ⟨q, v⟩, hi, hbefore, hnot⟩ := exists_first_not hall
      exact .inr ⟨i, q, v, hi, hbefore, hnot⟩
  constructor
  case held =>
    intro q hq
    obtain ⟨i, hi⟩ := List.mem_iff_getElem?.mp hq
    obtain ⟨slot, _, _, hget⟩ := h.get_eq hi
    exact ⟨slot.value, hget⟩
  case succeeds =>
    constructor
    · rintro ⟨bean, hbean⟩ q hq v hv
      rcases hcases with hall | ⟨i, q', v', hi, hbefore, hnot⟩
      · exact hall (q, v) (h.mem_given_iff.mpr ⟨hq, hv⟩)
      · rw [h.build_of_offence hi hbefore hnot] at hbean
        cases hbean
    · intro hall
      refine ⟨_, h.build_of_allows fun ⟨q, v⟩ hx => ?_⟩
      obtain ⟨hq, hv⟩ := h.mem_given_iff.mp hx
      exact hall q hq v hv
  case fails =>
    intro e he
    rcases hcases with hall | ⟨i, q, v, hi, hbefore, hnot⟩
    · rw [h.build_of_allows hall] at he
      cases he
    · rw [h.build_of_offence hi hbefore hnot] at he
      cases he
      obtain ⟨hq, hv⟩ := h.getElem?_given_iff.mp hi
      refine ⟨i, q, v, hq, hv, hnot, fun j q' v' hj hq' hv' => ?_, rfl⟩
      exact hbefore j (q', v') hj (h.getElem?_given_iff.mpr ⟨hq', hv'⟩)

/-- Whatever is called on a builder of a declared bean that is not mutable, with whichever converter. -/
theorem run_requires (himmutable : d.isMutable = false)
    (h : (Descriptor.ofSchema (d.schemaWith home defaults) kind).result = .ok D)
    (converter : ConverterChoice) (calls : List Call) :
    ({ D with converter }.builder.run calls).2.Requires d (d.beanType home) ∧
      ∀ q ∈ d.properties, { D with converter }.builder.Unset calls q.name →
        ({ D with converter }.builder.run calls).2.get q.name =
          .ok (if q.isNullable then none else Value.zero? q.type) := by
  refine ⟨(collects_run himmutable h converter calls).requires, fun q hq hcalls => ?_⟩
  rw [(collects_builder himmutable h converter).get_run hq hcalls]
  exact get_builder himmutable h converter hq

def built (s : Schema) (kind : AccessorKind) (calls : List Call) : Except BeanError Bean := do
  let D ← (Descriptor.ofSchema s kind).result
  ({ D with converter := .shared }.builder.run calls).2.build.result

theorem exists_of_built (s : Schema) (kind : AccessorKind) (calls : List Call)
    (h : (built s kind calls).isOk = true) :
    ∃ D bean, (Descriptor.ofSchema s kind).result = .ok D ∧
      ({ D with converter := .shared }.builder.run calls).2.build.result = .ok bean := by
  cases hbuilt : built s kind calls with
  | error e =>
    rw [hbuilt] at h
    cases h
  | ok bean =>
    obtain ⟨D, hD, hbean⟩ := bind_eq_ok.mp hbuilt
    exact ⟨D, bean, hD, hbean⟩

end Builder

namespace BeanDeclaration

/-- A title that must not be empty, a weight, a note under two `Option` layers, and stamps that are no
property. -/
def parcel : ResolvedDeclaration where
  name := "Parcel"
  kind := .generated
  isMutable := false
  isAutoRegistered := false
  schema := none
  annotations := []
  derived := []
  fields := [
    { ident := "title", type := .string, isBool := false, isNullable := false
      spec := some { check := some .notEmpty } },
    { ident := "weight", type := .int .u32, isBool := false, isNullable := false
      spec := some { getStyle := .field } },
    { ident := "note", type := .option .string, isBool := false, isNullable := true
      spec := some { getStyle := .wrapped } },
    { ident := "stamps", type := .list (.int .u8), isBool := false, isNullable := false
      spec := none }]

theorem parcel_requires :
    ∃ D b, (Descriptor.ofSchema (parcel.schemaWith "post" []) .reflective).result = .ok D ∧
      (D.builder.run [.set "title" (some (.ofString "")), .setText "weight" "12"]).2 = b ∧
      b.build.result = .error (.constructionFailed (parcel.beanType "post")
        (.validation "title must not be empty")) ∧
      b.Requires parcel (parcel.beanType "post") := by
  refine ⟨_, _, rfl, rfl, rfl, ?_⟩
  exact (@Builder.run_requires parcel "post" [] .reflective _ rfl rfl .shared _).1

end BeanDeclaration

end Beans
