import Beans.Proofs.DeclaredAccess
import Beans.Proofs.OptionLayers
/-!
# What a property accepts, by layers

The type in which a property is read and the one in which it is set differ in their `Option` layers alone.
Then the layers of a value decide whether it is accepted, whatever it holds: there may be as many as one
of the two types has, and one more than the slot has. What is accepted always coerces, so a value is
refused for its type or not at all.
-/

set_option autoImplicit false

namespace Beans

/-! ### Layers over an innermost type -/

namespace Ty

variable {x t : Ty} {n : Nat}

theorem innermost_of_not_isOption (hx : x.isOption = false) : x.innermost = x := by
  have hlayers := x.layered_innermost
  rw [layers_eq_zero.mpr hx] at hlayers
  exact hlayers

theorem layers_layered (x : Ty) (n : Nat) : (x.layered n).layers = x.layers + n := by
  induction n with
  | zero => rfl
  | succ n ih => exact congrArg (· + 1) ih

theorem layers_of_innermost (hx : x.isOption = false) (n : Nat) : (x.layered n).layers = n := by
  rw [layers_layered, layers_eq_zero.mpr hx, Nat.zero_add]

/-- Over an innermost type, one takes the values of those that have no more layers. -/
theorem layered_isAssignableFrom (hx : x.isOption = false) :
    (x.layered n).isAssignableFrom t = true ↔ ∃ c ≤ n, t = x.layered c := by
  rw [isAssignableFrom_iff]
  constructor
  · rintro ⟨k, hk⟩
    have hinnermost : x = t.innermost := by
      have hsame := congrArg innermost hk
      rwa [innermost_layered, innermost_layered, innermost_of_not_isOption hx] at hsame
    have hlayers : n = t.layers + k := by
      have hsame := congrArg layers hk
      rwa [layers_of_innermost hx, layers_layered] at hsame
    refine ⟨t.layers, by omega, ?_⟩
    rw [hinnermost, layered_innermost]
  · rintro ⟨c, hc, rfl⟩
    exact ⟨n - c, by rw [layered_add, Nat.add_sub_of_le hc]⟩

end Ty

namespace Value

theorem under_eq_none_iff {x : Ty} {n : Nat} {v : Value} (hv : v.WellTyped)
    (htype : v.type = x.layered n) :
    v.under n = none ↔ ∃ k < n, ∃ t, v.under k = some (.option t none) := by
  induction n generalizing v with
  | zero => simp [under]
  | succ n ih =>
    obtain ⟨content, rfl⟩ := exists_option_of_type htype
    cases content with
    | none => exact ⟨fun _ => ⟨0, Nat.succ_pos n, _, rfl⟩, fun _ => rfl⟩
    | some u =>
      have hinner : u.under n = none ↔ _ := ih hv.2 hv.1
      change u.under n = none ↔ _
      rw [hinner]
      constructor
      · rintro ⟨k, hk, t, h⟩
        exact ⟨k + 1, Nat.succ_lt_succ hk, t, h⟩
      · rintro ⟨k, hk, t, h⟩
        cases k with
        | zero => cases h
        | succ k => exact ⟨k, Nat.lt_of_succ_lt_succ hk, t, h⟩

end Value

/-! ### Properties -/

namespace Property

/-- The property is read under some layers and set under some, over the same innermost type. -/
structure Layered (p : Property) (x : Ty) (shown slot : Nat) : Prop where
  innermost : x.isOption = false
  type : p.type = x.layered shown
  slotType : p.slotType = x.layered slot

variable {p : Property} {x found : Ty} {shown slot c : Nat} {v : Value}

namespace Layered

theorem accepts_iff (h : p.Layered x shown slot) :
    p.accepts found = true ↔ ∃ c ≤ max shown (slot + 1), found = x.layered c := by
  unfold accepts
  rw [h.type, h.slotType, Bool.or_eq_true, Bool.or_eq_true]
  constructor
  · rintro ((haccepts | haccepts) | haccepts)
    · obtain ⟨c, hc, rfl⟩ := (Ty.layered_isAssignableFrom h.innermost).mp haccepts
      exact ⟨c, by omega, rfl⟩
    · obtain ⟨c, hc, rfl⟩ := (Ty.layered_isAssignableFrom h.innermost).mp haccepts
      exact ⟨c, by omega, rfl⟩
    · cases found with
      | option item =>
        obtain ⟨c, hc, rfl⟩ := (Ty.layered_isAssignableFrom h.innermost).mp haccepts
        exact ⟨c + 1, by omega, rfl⟩
      | _ => cases haccepts
  · rintro ⟨c, hc, rfl⟩
    rcases Nat.lt_or_ge shown c with hshown | hshown
    · rcases Nat.lt_or_ge slot c with hslot | hslot
      · -- the one layer more than the slot has
        obtain rfl : c = slot + 1 := by omega
        exact .inr (x.layered slot).isAssignableFrom_self
      · exact .inl (.inr ((Ty.layered_isAssignableFrom h.innermost).mpr ⟨c, hslot, rfl⟩))
    · exact .inl (.inl ((Ty.layered_isAssignableFrom h.innermost).mpr ⟨c, hshown, rfl⟩))

/-- A value that is accepted gets the layers that it lacks, or loses those that it has too many. -/
theorem accept_eq (h : p.Layered x shown slot) (hv : v.WellTyped) (htype : v.type = x.layered c)
    (hc : c ≤ max shown (slot + 1)) :
    p.accept v = .ok (if c ≤ slot then some (v.wrapped (slot - c)) else v.under (c - slot)) := by
  have haccepts : p.accepts v.type = true := h.accepts_iff.mpr ⟨c, hc, htype⟩
  rw [accept, if_pos haccepts, h.slotType, Value.coerce_of_layered hv htype]
  rfl

theorem exists_layers_of_accept (h : p.Layered x shown slot) {w : Option Value}
    (haccept : p.accept v = .ok w) : ∃ c ≤ max shown (slot + 1), v.type = x.layered c := by
  by_contra hnot
  rw [accept, if_neg (mt h.accepts_iff.mp hnot)] at haccept
  cases haccept

end Layered

/-- What becomes of a value that is offered to a property which is read under some layers and set under
some, over one innermost type. -/
structure AcceptsExactly (p : Property) (x : Ty) (shown slot : Nat) (v : Value) : Prop where
  accepted : (∃ w, p.accept v = .ok w) ↔ ∃ c ≤ max shown (slot + 1), v.type = x.layered c
  admits : ∀ w, p.accept v = .ok w → p.slotType.Admits w
  /-- What is stored is null only where a layer above those of the slot holds nothing. -/
  null : ∀ w, p.accept v = .ok w →
    (w = none ↔ ∃ k, slot + k < v.type.layers ∧ ∃ t, v.under k = some (.option t none))
  refused : ∀ e, p.accept v = .error e → e = .typeMismatch p.name p.type v.type
  /-- No coercion fails behind the test of the type. -/
  coerces : p.accepts v.type = true → ∃ w, v.coerce p.slotType = .ok w

theorem Layered.acceptsExactly (h : p.Layered x shown slot) (hv : v.WellTyped) :
    p.AcceptsExactly x shown slot v := by
  have hcoerces (haccepts : p.accepts v.type = true) : ∃ w, v.coerce p.slotType = .ok w := by
    obtain ⟨c, -, htype⟩ := h.accepts_iff.mp haccepts
    rw [h.slotType]
    exact ⟨_, Value.coerce_of_layered hv htype⟩
  constructor
  case accepted =>
    constructor
    · rintro ⟨w, hw⟩
      exact h.exists_layers_of_accept hw
    · rintro ⟨c, hc, htype⟩
      exact ⟨_, h.accept_eq hv htype hc⟩
  case admits => exact fun w hw => admits_of_accept? (v := some v) hw
  case null =>
    intro w hw
    obtain ⟨c, hc, htype⟩ := h.exists_layers_of_accept hw
    rw [h.accept_eq hv htype hc] at hw
    cases hw
    rw [htype, Ty.layers_of_innermost h.innermost]
    split
    · next hle =>
      constructor
      · nofun
      · rintro ⟨k, hk, -⟩
        omega
    · next hlt =>
      have hlayers : v.type = (x.layered slot).layered (c - slot) := by
        rw [htype, Ty.layered_add, Nat.add_sub_of_le (Nat.le_of_not_le hlt)]
      rw [Value.under_eq_none_iff hv hlayers]
      simp only [Nat.lt_sub_iff_add_lt']
  case refused =>
    intro e he
    by_cases haccepts : p.accepts v.type = true
    · obtain ⟨w, hw⟩ := hcoerces haccepts
      rw [accept, if_pos haccepts, hw] at he
      cases he
    · rw [accept, if_neg haccepts] at he
      cases he
      rfl
  case coerces => exact hcoerces

theorem layered_of_innermost (h : p.type.innermost = p.slotType.innermost) :
    p.Layered p.slotType.innermost p.type.layers p.slotType.layers where
  innermost := p.slotType.isOption_innermost
  type := by rw [← h, p.type.layered_innermost]
  slotType := p.slotType.layered_innermost.symm

theorem ShowsSlot.innermost_eq (h : p.ShowsSlot) : p.type.innermost = p.slotType.innermost := by
  rcases h with hsame | hlayer
  · rw [hsame]
  · rw [hlayer]
    rfl

theorem ShowsSlot.exists_layered (h : p.ShowsSlot) : ∃ x shown slot, p.Layered x shown slot :=
  ⟨_, _, _, layered_of_innermost h.innermost_eq⟩

end Property

/-! ### Properties of declared beans -/

theorem BeanDeclaration.showsSlot_of_ofSchema {d : ResolvedDeclaration} {home : String}
    {defaults : List (Option Value)} {kind : AccessorKind} {D : Descriptor} {p : Property}
    (h : (Descriptor.ofSchema (d.schemaWith home defaults) kind).result = .ok D)
    (hp : p ∈ D.properties) : p.ShowsSlot := by
  obtain ⟨hnames, hdistinct, _⟩ := Descriptor.ofSchema_wellFormed h
  rw [hnames] at hdistinct
  rcases Descriptor.declared_of_mem h hp with ⟨f, style, slot, hmem, hfield⟩ | ⟨m, name, t, -, hgetter⟩
  · rw [propertyFields_schemaWith] at hmem
    obtain ⟨q, hq, heq⟩ := List.mem_map.mp hmem
    cases heq
    exact (declares_of_fieldProperty hdistinct hq hfield).showsSlot
  · obtain ⟨a, -, rfl⟩ := Schema.derivedProperty_eq_ok.mp hgetter
    exact .inl rfl

/-- A property accepts a value exactly if this has a number of layers over the innermost type that one of
its own types has, or one more than the slot has. Each property of a declared bean has such types. -/
theorem Property.accept_by_layers {v : Value} (hv : v.WellTyped) :
    (∀ (p : Property) (x : Ty) (shown slot : Nat), p.Layered x shown slot →
      p.AcceptsExactly x shown slot v) ∧
    ∀ (d : ResolvedDeclaration) (home : String) (defaults : List (Option Value)) (kind : AccessorKind)
      (D : Descriptor), (Descriptor.ofSchema (d.schemaWith home defaults) kind).result = .ok D →
      ∀ p ∈ D.properties, ∃ x shown slot, p.Layered x shown slot ∧ p.AcceptsExactly x shown slot v := by
  refine ⟨fun p x shown slot h => h.acceptsExactly hv, ?_⟩
  intro d home defaults kind D hD p hp
  obtain ⟨x, shown, slot, h⟩ := (BeanDeclaration.showsSlot_of_ofSchema hD hp).exists_layered
  exact ⟨x, shown, slot, h, h.acceptsExactly hv⟩

/-- A label that is set as a text is read in a layer: one that is absent is stored as null, and one that is
absent in a second layer is refused. -/
theorem Property.waypoint_label_accepts :
    let absent : Value := .option .string none
    let deeper : Value := .option (.option .string) (some absent)
    ∃ D p, (Descriptor.ofSchema Descriptor.waypoint .handle).result = .ok D ∧
      D.property "label" = .ok p ∧ p.Layered .string 1 0 ∧ absent.WellTyped ∧ deeper.WellTyped ∧
      p.AcceptsExactly .string 1 0 absent ∧ p.AcceptsExactly .string 1 0 deeper ∧
      p.accept absent = .ok none ∧
      p.accept deeper = .error (.typeMismatch "label" (.option .string) deeper.type) := by
  intro absent deeper
  have habsent : absent.WellTyped := trivial
  have hdeeper : deeper.WellTyped := ⟨rfl, trivial⟩
  refine ⟨_, _, rfl, rfl, ⟨rfl, rfl, rfl⟩, habsent, hdeeper, ?_, ?_, rfl, rfl⟩
  · exact (accept_by_layers habsent).1 _ _ _ _ ⟨rfl, rfl, rfl⟩
  · exact (accept_by_layers hdeeper).1 _ _ _ _ ⟨rfl, rfl, rfl⟩

end Beans
