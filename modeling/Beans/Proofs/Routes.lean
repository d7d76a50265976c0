import Beans.Proofs.Descriptor
import Beans.Proofs.Handles
import Mathlib.Data.Set.Function
/-!
# Routes to one entry

A type is looked up by itself, by one of its beans or by its path. Where no two types of a program share
a path and every schema is declared for the type that has it, the paths of a registry lead to exactly the
types that have entries, so all routes come to the same, in every table that calls can leave.
-/

set_option autoImplicit false

namespace Beans

variable {c : Catalog} {types : Set BeanType} {t : RegistryTable} {type : BeanType}

/-- The types are the bean types of a program that the catalog is of: they have different paths, and each
has a schema that is declared for it. -/
structure Catalog.Covers (c : Catalog) (types : Set BeanType) : Prop where
  type_schemaOf : ∀ type ∈ types, (c.schemaOf type).type = type
  injOn_path : Set.InjOn BeanType.path types
  autoRegistered : ∀ type ∈ c.autoRegistered, type ∈ types

/-- The bean types that a call looks up or registers are among some. -/
def Registry.Call.Within (x : Call) (types : Set BeanType) : Prop :=
  match x with
  | .lookup type | .lookupType (.bean type) => type ∈ types
  | .lookupBean b => b.type ∈ types
  | .register d => d.type ∈ types
  | .lookupType _ | .lookupPath _ | .size | .contains _ => True

theorem Registry.Call.Within.of_looksUp {x : Call} (hx : x.Within types) (h : x.LooksUp type) :
    type ∈ types := by
  cases x with
  | lookup _ | lookupBean _ | lookupType _ =>
    cases h
    exact hx
  | lookupPath _ | register _ | size | contains _ => exact h.elim

/-! ### Paths and entries -/

namespace RegistryTable

/-- Only some types have entries, and the paths that lead somewhere are exactly those of types that have
entries. -/
structure Indexed (t : RegistryTable) (types : Set BeanType) : Prop where
  known : ∀ type, t.contains type = true → type ∈ types
  path_iff : ∀ path type, t.paths.get? path = some type ↔ type.path = path ∧ t.contains type = true

theorem indexed_empty : (∅ : RegistryTable).Indexed types :=
  ⟨nofun, fun _ _ => ⟨nofun, fun h => nomatch h.2⟩⟩

theorem contains_insert {entry : Entry} {paths : Table String BeanType} {type' : BeanType} :
    RegistryTable.contains { entries := t.entries.insert type entry, paths } type' = true ↔
      type = type' ∨ t.contains type' = true := by
  unfold contains Table.contains
  rw [Table.get?_insert]
  split
  · next h => exact ⟨fun _ => .inl h, fun _ => rfl⟩
  · next h => exact ⟨.inr, fun h' => h'.resolve_left h⟩

namespace Indexed

theorem get?_path_of_new (h : t.Indexed types) (hc : c.Covers types) (htype : type ∈ types)
    (hnew : t.entries.get? type = none) : t.paths.get? type.path = none := by
  cases hpath : t.paths.get? type.path with
  | none => rfl
  | some type' =>
    obtain ⟨hsame, hcontains⟩ := (h.path_iff _ _).mp hpath
    cases hc.injOn_path (h.known _ hcontains) htype hsame
    cases (contains_eq_false.mpr hnew).symm.trans hcontains

theorem atPath?_path (h : t.Indexed types) (hc : c.Covers types) (htype : type ∈ types) :
    t.atPath? type.path = t.entries.get? type := by
  unfold atPath?
  cases hentry : t.entries.get? type with
  | none => rw [h.get?_path_of_new hc htype hentry, Option.bind_none]
  | some entry =>
    have hpath := (h.path_iff type.path type).mpr ⟨rfl, contains_eq_true.mpr ⟨entry, hentry⟩⟩
    rw [hpath, Option.bind_some, hentry]

/-- A new entry is put under the path of its type. -/
theorem insert (h : t.Indexed types) (hc : c.Covers types) (htype : type ∈ types) {entry : Entry}
    {paths : Table String BeanType}
    (hpaths : ∀ path, paths.get? path = if type.path = path then some type else t.paths.get? path) :
    RegistryTable.Indexed { entries := t.entries.insert type entry, paths } types where
  known type' h' := by
    rcases contains_insert.mp h' with rfl | h'
    · exact htype
    · exact h.known type' h'
  path_iff path type' := by
    rw [hpaths, contains_insert]
    split
    · next hpath =>
      constructor
      · rintro ⟨⟩
        exact ⟨hpath, .inl rfl⟩
      · rintro ⟨hpath', rfl | h'⟩
        · rfl
        · rw [hc.injOn_path htype (h.known type' h') (hpath.trans hpath'.symm)]
    · next hpath =>
      rw [h.path_iff]
      refine and_congr_right fun hpath' => ⟨.inr, fun h' => h'.resolve_left ?_⟩
      rintro rfl
      exact hpath hpath'

end Indexed

end RegistryTable

namespace Catalog.Covers

open Registry (Overrides Call)

/-! ### Calls -/

theorem find?_path (hc : c.Covers types) (htype : type ∈ types) :
    c.autoRegistered.find? (fun b => (c.schemaOf b).type.path == type.path) =
      if type ∈ c.autoRegistered then some type else none := by
  cases hfind : c.autoRegistered.find? (fun b => (c.schemaOf b).type.path == type.path) with
  | some b =>
    have hmem := List.mem_of_find?_eq_some hfind
    have hb := hc.autoRegistered b hmem
    have hpath : (c.schemaOf b).type.path = type.path := by simpa using List.find?_some hfind
    rw [hc.type_schemaOf b hb] at hpath
    cases hc.injOn_path hb htype hpath
    rw [if_pos hmem]
  | none =>
    rw [if_neg]
    intro hmem
    have hne := List.find?_eq_none.mp hfind type hmem
    rw [hc.type_schemaOf type htype] at hne
    exact hne (beq_self_eq_true _)

theorem call_lookupPath (hc : c.Covers types) (h : t.Indexed types) (htype : type ∈ types)
    (o : Overrides) : (c.handle o).call t (.lookupPath type.path) =
      (c.handle o).call t (.lookupType (.bean type)) := by
  rw [Registry.call_lookupPath, h.atPath?_path hc htype]
  cases hentry : t.entries.get? type with
  | some entry =>
    have hx : (Call.lookupType (.bean type)).LooksUp type := rfl
    exact ((c.handle o).call_of_looksUp_of_entry t hx hentry).symm
  | none =>
    rw [Registry.call_lookupType, RegistryTable.contains_eq_false.mpr hentry, Bool.false_or,
      c.catalog_handle, hc.find?_path htype]
    by_cases hmem : type ∈ c.autoRegistered
    · rw [if_pos hmem, if_pos (List.contains_iff_mem.mpr hmem)]
    · rw [if_neg hmem, if_neg (mt List.contains_iff_mem.mp hmem)]

theorem call_indexed (hc : c.Covers types) (h : t.Indexed types) (o : Overrides) {x : Call}
    (hx : x.Within types) : ((c.handle o).call t x).2.Indexed types := by
  rcases (c.handle o).call_cases t x with hsame | ⟨type, hnew, hnamed, hcall⟩ | ⟨d, hnew, rfl⟩
  · rw [hsame]
    exact h
  · have htype : type ∈ types := hnamed.elim hx.of_looksUp (hc.autoRegistered type)
    rw [hcall, (c.handle o).call_lookup_of_new hnew]
    apply h.insert hc htype
    intro path
    rw [c.catalog_handle, hc.type_schemaOf type htype, Table.get?_insertIfNew,
      h.get?_path_of_new hc htype hnew, Option.none_or]
  · rw [(c.handle o).call_register_of_new hnew]
    exact h.insert hc hx fun path => Table.get?_insert _ _ _ _

theorem run_indexed (hc : c.Covers types) (h : t.Indexed types) {calls : List (Overrides × Call)}
    (hcalls : ∀ call ∈ calls, call.2.Within types) : (c.run t calls).2.Indexed types := by
  induction calls generalizing t with
  | nil => exact h
  | cons call calls ih =>
    obtain ⟨hcall, hrest⟩ := List.forall_mem_cons.mp hcalls
    exact ih (hc.call_indexed h call.1 hcall) hrest

theorem call_lookupPath_of_stray (hc : c.Covers types) (h : t.Indexed types) {path : String}
    (hstray : ∀ type ∈ types, type.path ≠ path) (o : Overrides) :
    (c.handle o).call t (.lookupPath path) = (.entry (.error (.beanNotFound path)), t) := by
  have hpath : t.atPath? path = none := by
    cases hentry : t.atPath? path with
    | none => rfl
    | some entry =>
      obtain ⟨type, hpath, _⟩ := RegistryTable.atPath?_eq_some.mp hentry
      obtain ⟨hsame, hcontains⟩ := (h.path_iff _ _).mp hpath
      exact absurd hsame (hstray type (h.known type hcontains))
  have hfind : c.autoRegistered.find? (fun b => (c.schemaOf b).type.path == path) = none := by
    rw [List.find?_eq_none]
    intro b hb
    have htype := hc.autoRegistered b hb
    rw [hc.type_schemaOf b htype, beq_iff_eq]
    exact hstray b htype
  rw [Registry.call_lookupPath, hpath, c.catalog_handle, hfind]

end Catalog.Covers

/-- The call is to look up the type, or the path of the type. -/
def Registry.Call.LeadsTo (x : Call) (type : BeanType) : Prop :=
  x.LooksUp type ∨ x = .lookupPath type.path

theorem Catalog.Covers.call_of_leadsTo (hc : c.Covers types) (h : t.Indexed types)
    (htype : type ∈ types) (hfound : t.contains type = true ∨ type ∈ c.autoRegistered)
    (o : Registry.Overrides) {x : Registry.Call} (hx : x.LeadsTo type) :
    (c.handle o).call t x = (c.handle o).call t (.lookup type) := by
  have hlooks {x : Registry.Call} (hx : x.LooksUp type) :
      (c.handle o).call t x = (c.handle o).call t (.lookup type) := by
    rcases (c.handle o).call_of_looksUp t hx with hcall | ⟨-, hnew, hunknown, -⟩
    · exact hcall
    · rw [RegistryTable.contains_eq_false.mpr hnew] at hfound
      exact absurd (hfound.resolve_left nofun) hunknown
  rcases hx with hx | rfl
  · exact hlooks hx
  · rw [hc.call_lookupPath h htype]
    exact hlooks rfl

theorem Catalog.Covers.call_of_leadsTo_of_entry (hc : c.Covers types) (h : t.Indexed types)
    (htype : type ∈ types) {entry : Entry} (hentry : t.entries.get? type = some entry)
    (o : Registry.Overrides) {x : Registry.Call} (hx : x.LeadsTo type) :
    (c.handle o).call t x = (.entry entry, t) := by
  have hcontains := RegistryTable.contains_eq_true.mpr ⟨entry, hentry⟩
  rw [hc.call_of_leadsTo h htype (.inl hcontains) o hx]
  exact (c.handle o).call_lookup_of_entry hentry

/-- Paths and types lead to the same entries. -/
structure RegistryTable.RoutesAgree (t : RegistryTable) (c : Catalog) (types : Set BeanType) :
    Prop where
  indexed : t.Indexed types
  /-- All routes to a type that has an entry come to it. -/
  held : ∀ type ∈ types, ∀ entry, t.entries.get? type = some entry →
    ∀ o x, x.LeadsTo type → (c.handle o).call t x = (.entry entry, t)
  /-- All routes to a type that may be found make the same entry, which is where they all lead then. -/
  found : ∀ type ∈ types, t.contains type = true ∨ type ∈ c.autoRegistered → ∀ o, ∃ entry t',
    t'.entries.get? type = some entry ∧
    (∀ x, x.LeadsTo type → (c.handle o).call t x = (.entry entry, t')) ∧
    ∀ o' x, x.LeadsTo type → (c.handle o').call t' x = (.entry entry, t')
  missing : ∀ type ∈ types, t.contains type = false → type ∉ c.autoRegistered →
    ∀ o x, x = .lookupType (.bean type) ∨ x = .lookupPath type.path →
      (c.handle o).call t x = (.entry (.error (.beanNotFound type.path)), t)
  foreign : ∀ type, (∀ b, type ≠ .bean b) → ∀ o,
    (c.handle o).call t (.lookupType type) = (.entry (.error (.beanNotFound type.path)), t)
  stray : ∀ path, (∀ type ∈ types, type.path ≠ path) → ∀ o,
    (c.handle o).call t (.lookupPath path) = (.entry (.error (.beanNotFound path)), t)

theorem RegistryTable.Indexed.routesAgree (h : t.Indexed types) (hc : c.Covers types) :
    t.RoutesAgree c types := by
  constructor
  case indexed => exact h
  case held =>
    intro type htype entry hentry o x hx
    exact hc.call_of_leadsTo_of_entry h htype hentry o hx
  case found =>
    intro type htype hfound o
    obtain ⟨entry, hanswer, hentry⟩ := (c.handle o).call_lookup_enters t type
    refine ⟨entry, _, hentry, fun x hx => ?_, fun o' x hx => ?_⟩
    · rw [hc.call_of_leadsTo h htype hfound o hx, ← hanswer]
    · have hlookup : (Registry.Call.lookup type).Within types := htype
      exact hc.call_of_leadsTo_of_entry (hc.call_indexed h o hlookup) htype hentry o' hx
  case missing =>
    intro type htype hnew hunknown o x hx
    have hmissing : (c.handle o).call t (.lookupType (.bean type)) =
        (.entry (.error (.beanNotFound type.path)), t) := by
      rw [Registry.call_lookupType, hnew, Bool.false_or]
      exact if_neg (mt List.contains_iff_mem.mp hunknown)
    rcases hx with rfl | rfl
    · exact hmissing
    · rw [hc.call_lookupPath h htype, hmissing]
  case foreign =>
    intro type hforeign o
    exact (c.handle o).call_lookupType_of_not_bean t hforeign
  case stray =>
    intro path hstray o
    exact hc.call_lookupPath_of_stray h hstray o

theorem Catalog.run_routesAgree (hc : c.Covers types)
    {calls : List (Registry.Overrides × Registry.Call)}
    (hcalls : ∀ call ∈ calls, call.2.Within types) : (c.run ∅ calls).2.RoutesAgree c types :=
  (hc.run_indexed RegistryTable.indexed_empty hcalls).routesAgree hc

/-- Waypoints may be found; the places that they extend cannot be described. -/
def Catalog.atlas : Catalog where
  schemaOf type := if type = Descriptor.waypoint.type then Descriptor.waypoint else { type }
  declaredKind _ := .reflective
  autoRegistered := [Descriptor.waypoint.type]

theorem Catalog.atlas_covers :
    atlas.Covers {Descriptor.waypoint.type, ⟨"atlas", "Place", .row⟩} where
  type_schemaOf := by
    rintro type (rfl | rfl) <;> rfl
  injOn_path := by
    rintro type (rfl | rfl) type' (rfl | rfl) hpath
    · rfl
    · exact absurd hpath (by decide)
    · exact absurd hpath (by decide)
    · rfl
  autoRegistered type h := .inl (List.mem_singleton.mp h)

/-- A place is looked up in vain, a waypoint is found by its path, and then it is too late to register
one. -/
theorem Catalog.atlas_routesAgree :
    ∃ d t, (Descriptor.ofSchema Descriptor.waypoint .handle).result = .ok d ∧
      (Catalog.atlas.run ∅ [
        ({ kind := some .generated }, .lookup ⟨"atlas", "Place", .row⟩),
        ({}, .lookupPath "atlas::Waypoint"),
        ({ kind := some .handle }, .register d)]).2 = t ∧
      t.size = 2 ∧ (t.atPath? "atlas::Waypoint").isSome = true ∧
      t.atPath? "atlas::Place" = some (.error (.constructorNotFound ⟨"atlas", "Place", .row⟩)) ∧
      t.RoutesAgree Catalog.atlas {Descriptor.waypoint.type, ⟨"atlas", "Place", .row⟩} := by
  refine ⟨_, _, rfl, rfl, rfl, rfl, rfl, Catalog.run_routesAgree Catalog.atlas_covers ?_⟩
  intro call hcall
  rcases List.mem_cons.mp hcall with rfl | hcall
  · exact .inr rfl
  rcases List.mem_cons.mp hcall with rfl | hcall
  · trivial
  · cases List.mem_singleton.mp hcall
    exact .inl rfl

end Beans
