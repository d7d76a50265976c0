import Beans.Proofs.BeanEquality
import Beans.Proofs.OptionLayers
/-!
# Queries along paths

A path may be followed in two parts. What the first part finds decides how the second one goes on: from
the bean that stands under any number of `Option` layers, not at all where there is null or a layer that
holds nothing, and with a refusal where anything else stands there.
-/

set_option autoImplicit false

namespace Beans

/-! ### Values in the middle of a path -/

namespace Value

variable {v w : Value}

/-- The other value stands in some layers of the value, all of which hold something. -/
def Holds (v w : Value) : Prop :=
  ∃ k, v.under k = some w

theorem Holds.refl (v : Value) : v.Holds v :=
  ⟨0, rfl⟩

theorem Holds.layer {t : Ty} (h : v.Holds w) : (option t (some v)).Holds w := by
  obtain ⟨k, hk⟩ := h
  exact ⟨k + 1, hk⟩

/-- Layers that hold something make no difference to where a value leads. -/
theorem link_of_holds (h : v.Holds w) : v.link = w.link := by
  obtain ⟨k, hk⟩ := h
  induction k generalizing v with
  | zero =>
    cases hk
    rfl
  | succ k ih =>
    cases v with
    | option t content =>
      obtain ⟨u, rfl, hu⟩ := Option.bind_eq_some_iff.mp hk
      have hinner : u.link = w.link := ih hu
      exact hinner
    | _ => cases hk

theorem exists_holds (v : Value) : ∃ w, v.Holds w ∧
    ((∃ c : Bean, w = c.toValue) ∨ (∃ t, w = option t none) ∨ w.link = .other) := by
  induction v using induction_parts with
  | step v ih =>
    cases v with
    | option t content =>
      cases content with
      | none => exact ⟨_, .refl _, .inr (.inl ⟨t, rfl⟩)⟩
      | some u =>
        obtain ⟨w, hw, hend⟩ := ih u (mem_parts_option.mpr rfl)
        exact ⟨w, hw.layer, hend⟩
    | bean b cells => exact ⟨_, .refl _, .inl ⟨⟨b, cells⟩, rfl⟩⟩
    | _ => exact ⟨_, .refl _, .inr (.inr rfl)⟩

theorem link_eq_bean {c : Bean} : v.link = .bean c ↔ v.Holds c.toValue := by
  constructor
  · intro h
    obtain ⟨w, hw, hend⟩ := v.exists_holds
    rw [link_of_holds hw] at h
    rcases hend with ⟨c', rfl⟩ | ⟨t, rfl⟩ | hother
    · cases h
      exact hw
    · cases h
    · cases hother.symm.trans h
  · intro h
    exact link_of_holds h

theorem link_eq_absent : v.link = .absent ↔ ∃ t, v.Holds (option t none) := by
  constructor
  · intro h
    obtain ⟨w, hw, hend⟩ := v.exists_holds
    rw [link_of_holds hw] at h
    rcases hend with ⟨c, rfl⟩ | ⟨t, rfl⟩ | hother
    · cases h
    · exact ⟨t, hw⟩
    · cases hother.symm.trans h
  · rintro ⟨t, h⟩
    exact link_of_holds h

end Value

/-! ### Paths in two parts -/

namespace Registry

variable (r : Registry)

theorem follow_append (previous : String) (v : Option Value) (xs ys : List String) :
    r.follow previous v (xs ++ ys) = (do
      let w ← r.follow previous v xs
      r.follow ((previous :: xs).getLast (List.cons_ne_nil _ _)) w ys) := by
  induction xs generalizing previous v with
  | nil => simp [follow]
  | cons name rest ih =>
    have hnull (last : String) : r.follow last none ys = pure none := by
      cases ys <;> rfl
    cases v with
    | none => simp [follow, hnull]
    | some v =>
      simp only [List.cons_append, follow]
      cases v.link with
      | bean b => simp [ih]
      | absent => simp [hnull]
      | other => rfl

/-- How a whole path goes on from what its first part has found, where that ends with the property
`last`. -/
structure GoesOn (first whole : LookupM (Option Value)) (last : String) (ys : List String)
    (t : RegistryTable) : Prop where
  refused : ∀ e, first.outcome t = .error e → (whole.run.run t).result = (.error e, first.after t)
  null : first.outcome t = .ok none → (whole.run.run t).result = (.ok none, first.after t)
  absent : ∀ v s, first.outcome t = .ok (some v) → v.Holds (.option s none) →
    (whole.run.run t).result = (.ok none, first.after t)
  /-- The second part comes to the same whether the first one has been followed or not. -/
  bean : ∀ v c, first.outcome t = .ok (some v) → v.Holds c.toValue →
    whole.outcome t = (r.query (.path ys) c).outcome t ∧
      (whole.run.run t).result = ((r.query (.path ys) c).run.run (first.after t)).result
  other : ∀ v, first.outcome t = .ok (some v) → (∀ s, ¬ v.Holds (.option s none)) →
    (∀ c : Bean, ¬ v.Holds c.toValue) →
    (whole.run.run t).result = (.error (.notABean last v.type), first.after t)

theorem follow_some (previous : String) (v : Value) {ys : List String} (hys : ys ≠ []) :
    r.follow previous (some v) ys = match v.link with
      | .bean c => r.query (.path ys) c
      | .absent => pure none
      | .other => throw (.notABean previous v.type) := by
  cases ys with
  | nil => exact absurd rfl hys
  | cons name rest => rfl

/-- The whole path comes to what its first part comes to, gone on from there. A path of one property is
that property. -/
theorem query_path_append (b : Bean) (t : RegistryTable) {xs ys : List String} (hxs : xs ≠ [])
    (hys : ys ≠ []) :
    r.GoesOn (r.query (.path xs) b) (r.query (.path (xs ++ ys)) b) (xs.getLast hxs) ys t ∧
      ∀ name, r.query (.path [name]) b = r.query (.property name) b := by
  let first := r.query (.path xs) b
  have hwhole : r.query (.path (xs ++ ys)) b = (do
      let v ← first
      r.follow (xs.getLast hxs) v ys) := by
    cases xs with
    | nil => exact absurd rfl hxs
    | cons name rest => simp [first, query, follow_append]
  have hresult : (first.run.run t).result = (first.outcome t, first.after t) := rfl
  have hgo {v : Option Value} (h : first.outcome t = .ok v) :
      ((r.query (.path (xs ++ ys)) b).run.run t).result =
        ((r.follow (xs.getLast hxs) v ys).run.run (first.after t)).result := by
    rw [hwhole, LookupM.result_bind_of_ok (hresult.trans (by rw [h]))]
  constructor
  · constructor
    case refused =>
      intro e he
      rw [hwhole]
      exact LookupM.result_bind_of_error (hresult.trans (by rw [he]))
    case null =>
      intro h
      rw [hgo h]
      cases ys <;> rfl
    case absent =>
      intro v s h hv
      rw [hgo h, follow_some _ _ _ hys, Value.link_eq_absent.mpr ⟨s, hv⟩]
      rfl
    case bean =>
      intro v c h hv
      have hsecond : ((r.query (.path (xs ++ ys)) b).run.run t).result =
          ((r.query (.path ys) c).run.run (first.after t)).result := by
        rw [hgo h, follow_some _ _ _ hys, Value.link_eq_bean.mpr hv]
      refine ⟨?_, hsecond⟩
      have hagree : r.LookupsAgree t (first.after t) :=
        (ThroughLookups.query (.path xs) b).agrees_after fun _ => rfl
      exact (congrArg Prod.fst hsecond).trans
        ((ThroughLookups.query (.path ys) c).result_eq_of_agree hagree).symm
    case other =>
      intro v h habsent hbean
      have hlink : v.link = .other := by
        cases hv : v.link with
        | bean c => exact absurd (Value.link_eq_bean.mp hv) (hbean c)
        | absent =>
          obtain ⟨s, hs⟩ := Value.link_eq_absent.mp hv
          exact absurd hs (habsent s)
        | other => rfl
      rw [hgo h, follow_some _ _ _ hys, hlink]
      rfl
  · intro name
    exact bind_pure (r.queryProperty name b)

end Registry

def Catalog.harbour : Catalog where
  schemaOf type :=
    .sheet type <|
      if type.name = "Ship" then
        [("berth", .option (.option (.bean ⟨"harbour", "Berth", .row⟩))), ("draught", .int .u8)]
      else if type.name = "Berth" then [("keeper", .bean ⟨"harbour", "Keeper", .row⟩)]
      else [("name", .string)]
  declaredKind _ := .handle
  autoRegistered := []

/-- The path goes on from the berth in its two layers, and no path goes on from the draught. -/
theorem Catalog.harbour_path_append :
    let r := harbour.handle {}
    let keeper : Bean := ⟨⟨"harbour", "Keeper", .row⟩, [some (.ofString "Ada")]⟩
    let berth : Bean := ⟨⟨"harbour", "Berth", .row⟩, [some keeper.toValue]⟩
    let ship : Bean :=
      ⟨⟨"harbour", "Ship", .row⟩, [some (berth.toValue.wrapped 2), some (.ofInt .u8 3)]⟩
    ["berth"] ≠ [] ∧ ["draught"] ≠ [] ∧ ["keeper", "name"] ≠ [] ∧
      (r.query (.path ["berth", "keeper", "name"]) ship).outcome ∅ =
        (r.query (.path ["keeper", "name"]) berth).outcome ∅ ∧
      (r.query (.path ["keeper", "name"]) berth).outcome ∅ = .ok (some (.ofString "Ada")) ∧
      (r.query (.path ["draught", "keeper", "name"]) ship).outcome ∅ =
        .error (.notABean "draught" (.int .u8)) := by
  intro r keeper berth ship
  have hberth : ["berth"] ≠ [] := nofun
  have hdraught : ["draught"] ≠ [] := nofun
  have hrest : ["keeper", "name"] ≠ [] := nofun
  have hgoes := (Registry.query_path_append r ship ∅ hberth hrest).1
  have hstops := (Registry.query_path_append r ship ∅ hdraught hrest).1
  have hlink : (Value.ofInt .u8 3).link = .other := rfl
  refine ⟨hberth, hdraught, hrest, ?_, rfl, ?_⟩
  · exact (hgoes.bean (berth.toValue.wrapped 2) berth rfl ⟨2, rfl⟩).1
  · refine congrArg Prod.fst (hstops.other (.ofInt .u8 3) rfl ?_ ?_)
    · intro s hs
      cases hlink.symm.trans (Value.link_eq_absent.mpr ⟨s, hs⟩)
    · intro c hc
      cases hlink.symm.trans (Value.link_eq_bean.mpr hc)

end Beans
