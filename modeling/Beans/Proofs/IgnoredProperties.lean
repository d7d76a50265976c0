import Beans.Proofs.BeanEquality
/-!
# Equality of beans but for some properties

Beans of one type may be compared with some properties left out. If none is left out this is the comparison
by all properties: that one looks up each property by its name, and as names are distinct it finds the same
one again. Which properties are left out is all that matters about the names that are given, and beans that
are equal stay so where more is left out. Beans of different types are not looked at.
-/

set_option autoImplicit false

namespace Beans

namespace Descriptor

variable {d : Descriptor}

/-- The descriptor is one that a schema has, with any converter. -/
def FromSchema (d : Descriptor) : Prop :=
  ∃ s kind D converter, (ofSchema s kind).result = .ok D ∧ d = { D with converter }

theorem FromSchema.distinct (h : d.FromSchema) : d.propertyNames.Nodup := by
  obtain ⟨s, kind, D, converter, hD, rfl⟩ := h
  exact (ofSchema_wellFormed hD).distinct

theorem FromSchema.adopt (h : d.FromSchema) (r : Registry) : (r.adopt d).FromSchema := by
  unfold Registry.adopt
  split
  · obtain ⟨s, kind, D, converter, hD, rfl⟩ := h
    exact ⟨s, kind, D, r.converter, hD, rfl⟩
  · exact h

end Descriptor

/-- A type that has just been looked up has an entry. -/
theorem Registry.result_lookup_again {r : Registry} {t : RegistryTable} {type : BeanType} {d : Descriptor} (h : (r.lookup type).outcome t = .ok d) :
    ((r.lookup type).run.run ((r.lookup type).after t)).result =
      (.ok d, (r.lookup type).after t) := by
  apply result_lookup_of_entry
  rw [get?_after_lookup, if_pos rfl, h]

section

variable [Traits] {a b : Bean} {ignored l l' : List String}

namespace Descriptor

variable {d : Descriptor}

def equalBut (d : Descriptor) (ignored : List String) (a b : Bean) : Except BeanError Bool :=
  sameValues a b <|
    (d.properties.filter fun p => !ignored.contains p.name).map fun p => (p, some p)

theorem equalBut_congr (h : ∀ n ∈ d.propertyNames, n ∈ l ↔ n ∈ l') :
    d.equalBut l a b = d.equalBut l' a b := by
  have hkept : d.properties.filter (fun p => !l.contains p.name) =
      d.properties.filter (fun p => !l'.contains p.name) := by
    apply List.filter_congr
    intro p hp
    have hname : p.name ∈ l ↔ p.name ∈ l' := h p.name (List.mem_map_of_mem hp)
    simp [hname]
  unfold equalBut
  rw [hkept]

theorem equalBut_of_disjoint (hd : d.propertyNames.Nodup) (h : ∀ n ∈ d.propertyNames, n ∉ ignored) :
    d.equalBut ignored a b = d.equalBeans d a b := by
  have hall : d.properties.filter (fun p => !ignored.contains p.name) = d.properties := by
    apply List.filter_eq_self.mpr
    intro p hp
    simpa using h p.name (List.mem_map_of_mem hp)
  have hfound : d.properties.map (fun p => (p, d.properties.find? (·.name == p.name))) =
      d.properties.map fun p => (p, some p) := by
    apply List.map_congr_left
    intro p hp
    rw [find?_eq_some_of_distinct hd hp]
  unfold equalBut equalBeans
  rw [hall, hfound, if_neg (not_not.mpr rfl)]

theorem equalBut_of_subset (hsub : ∀ n ∈ l, n ∈ l') (h : d.equalBut l a b = .ok true) :
    d.equalBut l' a b = .ok true := by
  unfold equalBut at h ⊢
  rw [sameValues_eq_true] at h ⊢
  intro x hx
  obtain ⟨p, hp, rfl⟩ := List.mem_map.mp hx
  obtain ⟨hmem, hkept⟩ := List.mem_filter.mp hp
  apply h
  apply List.mem_map_of_mem
  apply List.mem_filter.mpr
  refine ⟨hmem, ?_⟩
  have hnot : p.name ∉ l' := by simpa using hkept
  simpa using fun hl => hnot (hsub p.name hl)

end Descriptor

namespace Registry

variable {r : Registry} {t : RegistryTable}

theorem equalIgnoring_eq (htype : a.type = b.type) : r.equalIgnoring ignored a b = (do
    let d ← r.lookup a.type
    ofExcept (d.equalBut ignored a b)) := by
  unfold equalIgnoring
  exact if_neg (not_not.mpr htype)

theorem equalIgnoring_of_ne (htype : a.type ≠ b.type) :
    r.equalIgnoring ignored a b = pure false := by
  unfold equalIgnoring
  exact if_pos htype

/-- How the comparison of two beans depends on the names of ignored properties. -/
structure Ignores (r : Registry) (a b : Bean) (t : RegistryTable) : Prop where
  /-- Where none of the properties is ignored, the beans are compared by all of them. -/
  unnamed : a.type = b.type → ∀ ignored,
    (∀ d, (r.lookup a.type).outcome t = .ok d → ∀ n ∈ d.propertyNames, n ∉ ignored) →
    ((r.equalIgnoring ignored a b).run.run t).result = ((r.propertiesEqual a b).run.run t).result
  named : ∀ l l',
    (∀ d, (r.lookup a.type).outcome t = .ok d → ∀ n ∈ d.propertyNames, n ∈ l ↔ n ∈ l') →
    ((r.equalIgnoring l a b).run.run t).result = ((r.equalIgnoring l' a b).run.run t).result
  more : ∀ l l', (∀ n ∈ l, n ∈ l') → (r.equalIgnoring l a b).outcome t = .ok true →
    (r.equalIgnoring l' a b).outcome t = .ok true
  /-- Nothing is looked up or read. -/
  apart : a.type ≠ b.type → ∀ ignored, r.equalIgnoring ignored a b = pure false

theorem ignores_of_distinct
    (ht : ∀ d, (r.lookup a.type).outcome t = .ok d → d.propertyNames.Nodup) : r.Ignores a b t := by
  constructor
  case unnamed =>
    intro htype ignored hignored
    rw [equalIgnoring_eq htype, propertiesEqual_eq, ← htype]
    apply LookupM.result_bind_congr
    intro d hd
    rw [LookupM.result_bind_of_ok (result_lookup_again hd),
      Descriptor.equalBut_of_disjoint (ht d hd) (hignored d hd)]
  case named =>
    intro l l' h
    by_cases htype : a.type = b.type
    · rw [equalIgnoring_eq htype, equalIgnoring_eq htype]
      apply LookupM.result_bind_congr
      intro d hd
      rw [Descriptor.equalBut_congr (h d hd)]
    · rw [equalIgnoring_of_ne htype, equalIgnoring_of_ne htype]
  case more =>
    intro l l' hsub h
    by_cases htype : a.type = b.type
    · rw [equalIgnoring_eq htype, LookupM.outcome_bind] at h ⊢
      obtain ⟨d, hd, h⟩ := bind_eq_ok.mp h
      rw [LookupM.outcome_ofExcept] at h
      apply bind_eq_ok.mpr
      refine ⟨d, hd, ?_⟩
      rw [LookupM.outcome_ofExcept]
      exact Descriptor.equalBut_of_subset hsub h
    · rw [equalIgnoring_of_ne htype] at h
      cases h
  case apart =>
    intro htype ignored
    exact equalIgnoring_of_ne htype

end Registry

namespace Catalog

variable {c : Catalog} {t : RegistryTable}

/-- However a registry has been used, a comparison of two beans but for some properties depends on the
names of those as it should. -/
theorem equalIgnoring_lawful (ht : c.Reaches Set.univ {d | d.FromSchema} t) (o : Registry.Overrides)
    (a b : Bean) : (c.handle o).Ignores a b t := by
  have hentries := ht.entry (P := Descriptor.FromSchema)
    (fun type kind D converter hD => ⟨_, kind, D, converter, hD, rfl⟩) (fun d hd r => hd.adopt r)
  apply Registry.ignores_of_distinct
  intro d hd
  rw [Registry.outcome_lookup] at hd
  cases hentry : t.entries.get? a.type with
  | some entry =>
    rw [hentry] at hd
    exact (hentries a.type d (hentry.trans (congrArg some hd))).distinct
  | none =>
    rw [hentry, Option.getD_none, Registry.describe_eq] at hd
    obtain ⟨D, hD, rfl⟩ := map_eq_ok.mp hd
    exact (Descriptor.ofSchema_wellFormed hD).distinct

end Catalog

end

section Depot

open Workshop

attribute [local instance] Workshop.traits

/-- Two tanks that differ in their names alone, compared after they have been found to differ. -/
theorem Catalog.depot_equalIgnoring :
    let r := depot.handle {}
    let shelf := shelfOf (levels (releaseOf 1 7, 0) (releaseOf 2 1, 0)) "new"
    let a : Bean := ⟨⟨"depot", "Tank", .row⟩, [some (.ofString "T1"), some shelf]⟩
    let b : Bean := ⟨⟨"depot", "Tank", .row⟩, [some (.ofString "T2"), some shelf]⟩
    let report : Bean := ⟨⟨"depot", "Report", .row⟩, [some shelf, some (.ofString "T1")]⟩
    let t := (r.propertiesEqual a b).after ∅
    depot.Reaches Set.univ {d | d.FromSchema} t ∧
      (r.equalIgnoring ["colour"] a b).outcome t = (r.propertiesEqual a b).outcome t ∧
      (r.propertiesEqual a b).outcome t = .ok false ∧
      (r.equalIgnoring ["name"] a b).outcome t = .ok true ∧
      (r.equalIgnoring ["shelf", "name", "colour"] a b).outcome t = .ok true ∧
      r.equalIgnoring ["name", "shelf"] a report = pure false := by
  intro r shelf a b report t
  have ht : depot.Reaches Set.univ {d | d.FromSchema} t :=
    Reaches.after .fresh (Set.mem_univ _) (.propertiesEqual a b)
  have hlaws := equalIgnoring_lawful ht {} a b
  have hname : (r.equalIgnoring ["name"] a b).outcome t = .ok true := by decide +kernel
  have hcolour : ((r.equalIgnoring ["colour"] a b).run.run t).result =
      ((r.propertiesEqual a b).run.run t).result := by
    apply hlaws.unnamed rfl
    intro d hd n hn
    have hnames : d.propertyNames = ["name", "shelf"] := by
      have hfound : ((r.lookup a.type).outcome t).map Descriptor.propertyNames =
          .ok ["name", "shelf"] := by decide +kernel
      rw [hd] at hfound
      exact Except.ok.inj hfound
    rw [hnames] at hn
    simp at hn ⊢
    rcases hn with rfl | rfl <;> decide
  refine ⟨ht, congrArg Prod.fst hcolour, by decide +kernel, hname, ?_, ?_⟩
  · apply hlaws.more ["name"] _ _ hname
    simp
  · exact (equalIgnoring_lawful ht {} a report).apart (by decide) _

end Depot

end Beans
