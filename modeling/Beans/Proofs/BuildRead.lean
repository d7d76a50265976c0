import Beans.Proofs.DeclaredAccess
import Beans.Proofs.Required
/-!
# Reading what was built

A bean that was built reads as what its builder held: a property shows the value, or null, that was held
for it, and a wrapped property an `Option` of it. The fields that are no properties have their defaults.
-/

set_option autoImplicit false

namespace Beans

namespace Builder

variable {d : ResolvedDeclaration} {home : String} {defaults : List (Option Value)}
  {kind : AccessorKind} {D : Descriptor} {b : Builder} {bean : Bean}

theorem Collects.eq_assembled (h : b.Collects d home defaults) (hbuild : b.build.result = .ok bean) :
    bean = b.assembled d home defaults := by
  have hallows : ∀ x ∈ b.given d, x.1.Allows x.2 := by
    rintro ⟨q, v⟩ hx
    obtain ⟨hq, hv⟩ := h.mem_given_iff.mp hx
    exact h.requires.succeeds.mp ⟨bean, hbuild⟩ q hq v hv
  rw [h.build_of_allows hallows] at hbuild
  exact (Except.ok.inj hbuild).symm

/-- What was held for each property when a declared bean was built is what it shows. -/
theorem run_build_read (hd : d.StylesFit) (himmutable : d.isMutable = false)
    (h : (Descriptor.ofSchema (d.schemaWith home defaults) kind).result = .ok D)
    (converter : ConverterChoice) (calls : List Call)
    (hbuild : ({ D with converter }.builder.run calls).2.build.result = .ok bean) :
    bean.type = d.beanType home ∧
      (∀ q ∈ d.properties, ∃ p v, D.property q.name = .ok p ∧
        ({ D with converter }.builder.run calls).2.get q.name = .ok v ∧
        p.get bean = .ok (if q.spec.getStyle = .wrapped then some (.option q.type v) else v)) ∧
      ∀ x ∈ d.others, bean.cell? x.1 = (⟨d.beanType home, defaults⟩ : Bean).cell? x.1 := by
  have hcollects := collects_run himmutable h converter calls
  obtain ⟨own, derived, hD⟩ := Descriptor.exists_declared h
  obtain rfl := hcollects.eq_assembled hbuild
  have htype := Builder.type_assembled ({ D with converter }.builder.run calls).2 d home defaults
  refine ⟨htype, fun q hq => ?_, fun x hx => hcollects.cell?_assembled_of_other hx⟩
  obtain ⟨p, slot, hp, hdeclares⟩ := hD.property hq
  rw [← htype] at hdeclares
  obtain ⟨v, hv⟩ := hcollects.requires.held q hq
  have hcell := hcollects.cell?_assembled (hcollects.mem_given_iff.mpr ⟨hq, hv⟩)
  have hfit := BeanDeclaration.isNullable_of_wrapped hd hq
  exact ⟨p, v, hp, hv, hdeclares.get_of_cell hfit hcell⟩

end Builder

namespace BeanDeclaration

theorem parcel_stylesFit : parcel.StylesFit := by
  simp [StylesFit, DeclaredField.StyleFits, parcel, GetStyle.needsOption]

theorem parcel_read :
    let defaults : List (Option Value) :=
      [none, none, none, some (.list (.int .u8) [.ofInt .u8 4])]
    ∃ D b bean, (Descriptor.ofSchema (parcel.schemaWith "post" defaults) .reflective).result = .ok D ∧
      ({ D with converter := .shared }.builder.run [.set "title" (some (.ofString "books")),
        .set "note" (some (.option .string none)), .setText "weight" "12"]).2 = b ∧
      b.build.result = .ok bean ∧
      bean.type = parcel.beanType "post" ∧
      (∀ q ∈ parcel.properties, ∃ p v, D.property q.name = .ok p ∧ b.get q.name = .ok v ∧
        p.get bean = .ok (if q.spec.getStyle = .wrapped then some (.option q.type v) else v)) ∧
      ∀ x ∈ parcel.others, bean.cell? x.1 = (⟨parcel.beanType "post", defaults⟩ : Bean).cell? x.1 := by
  intro defaults
  obtain ⟨D, bean, hD, hbean⟩ := Builder.exists_of_built (parcel.schemaWith "post" defaults)
    .reflective [.set "title" (some (.ofString "books")), .set "note" (some (.option .string none)),
      .setText "weight" "12"] (by decide +kernel)
  exact ⟨D, _, bean, hD, rfl, hbean, Builder.run_build_read parcel_stylesFit rfl hD .shared _ hbean⟩

end BeanDeclaration

end Beans
