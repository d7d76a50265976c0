import Beans.Proofs.Entries
/-!
# Handles on one registry

The handles on one registry share its catalog and its table, and each has overrides of its own. A call
through any of them leaves the table as it is, or else enters one type that had no entry. So an entry is
made once: it stays what the first call made it, and every handle comes to it from then on.
-/

set_option autoImplicit false

namespace Beans

namespace Registry

/-- What a handle asks for in place of what the types declare. -/
structure Overrides where
  kind : Option AccessorKind := none
  converter : ConverterChoice := .shared

inductive Call where
  | lookup (type : BeanType)
  | lookupBean (b : Bean)
  | lookupType (type : Ty)
  | lookupPath (path : String)
  | register (d : Descriptor)
  | size
  | contains (type : BeanType)

/-- The call is to look up the type itself. -/
def Call.LooksUp (x : Call) (type : BeanType) : Prop :=
  match x with
  | .lookup t => t = type
  | .lookupBean b => b.type = type
  | .lookupType t => t = .bean type
  | .lookupPath _ | .register _ | .size | .contains _ => False

inductive Answer where
  | entry (e : Entry)
  | size (n : Nat)
  | contains (b : Bool)

def call (r : Registry) (t : RegistryTable) : Call → Answer × RegistryTable
  | .lookup type => answer (r.lookup type)
  | .lookupBean b => answer (r.lookupBean b)
  | .lookupType type => answer (r.lookupType type)
  | .lookupPath path => answer (r.lookupPath path)
  | .register d => answer (r.register d)
  | .size => (.size t.size, t)
  | .contains type => (.contains (t.contains type), t)
where
  answer (x : LookupM Descriptor) : Answer × RegistryTable :=
    (.entry (x.outcome t), x.after t)

end Registry

/-- The handle with some overrides on the registry of a catalog. -/
def Catalog.handle (c : Catalog) (o : Registry.Overrides) : Registry :=
  { catalog := c, kind := o.kind, converter := o.converter }

@[simp] theorem Catalog.catalog_handle (c : Catalog) (o : Registry.Overrides) :
    (c.handle o).catalog = c := rfl

def Catalog.run (c : Catalog) (t : RegistryTable) :
    List (Registry.Overrides × Registry.Call) → List Registry.Answer × RegistryTable
  | [] => ([], t)
  | (o, x) :: calls =>
    let rest := c.run ((c.handle o).call t x).2 calls
    (((c.handle o).call t x).1 :: rest.1, rest.2)

namespace RegistryTable

variable {t : RegistryTable} {type : BeanType}

theorem contains_eq_true : t.contains type = true ↔ ∃ entry, t.entries.get? type = some entry :=
  Option.isSome_iff_exists

theorem contains_eq_false : t.contains type = false ↔ t.entries.get? type = none :=
  Option.isSome_eq_false_iff.trans Option.isNone_iff_eq_none

theorem atPath?_eq_some {path : String} {entry : Entry} : t.atPath? path = some entry ↔
    ∃ type, t.paths.get? path = some type ∧ t.entries.get? type = some entry :=
  Option.bind_eq_some_iff

theorem publish_of_new (h : t.entries.get? type = none) (path : String) (entry : Entry) :
    t.publish type path entry =
      (entry, { entries := t.entries.insert type entry, paths := t.paths.insertIfNew path type }) := by
  simp only [publish, Table.getOrInsert, h]

end RegistryTable

namespace Registry

variable (r : Registry) (t : RegistryTable) {type : BeanType} {entry : Entry}

/-- A descriptor as a handle enters it: one with the shared converter gets that of the handle. -/
def adopt (d : Descriptor) : Descriptor :=
  match d.converter with
  | .shared => { d with converter := r.converter }
  | .own _ => d

theorem type_adopt (d : Descriptor) : (r.adopt d).type = d.type := by
  unfold adopt
  split <;> rfl

/-! ### Single calls -/

variable {t}

theorem call_lookup_of_entry (h : t.entries.get? type = some entry) :
    r.call t (.lookup type) = (.entry entry, t) := by
  simp only [call, call.answer, LookupM.outcome, LookupM.after, result_lookup, h]

theorem call_lookup_of_new (h : t.entries.get? type = none) : r.call t (.lookup type) =
    (.entry (r.describe type).result, {
      entries := t.entries.insert type (r.describe type).result
      paths := t.paths.insertIfNew (r.catalog.schemaOf type).type.path type }) := by
  simp only [call, call.answer, LookupM.outcome, LookupM.after, result_lookup, h,
    RegistryTable.publish_of_new h]

variable (t)

theorem call_lookupType (type : BeanType) : r.call t (.lookupType (.bean type)) =
    if t.contains type || r.catalog.autoRegistered.contains type then r.call t (.lookup type)
    else (.entry (.error (.beanNotFound type.path)), t) := by
  change call.answer t (if t.contains type || r.catalog.autoRegistered.contains type then r.lookup type
    else throw _) = _
  split <;> rfl

theorem call_lookupType_of_not_bean {type : Ty} (h : ∀ b, type ≠ .bean b) :
    r.call t (.lookupType type) = (.entry (.error (.beanNotFound type.path)), t) := by
  cases type with
  | bean b => exact absurd rfl (h b)
  | scalar _ | leaf _ | option _ | list _ | set _ _ | map _ _ _ => rfl

theorem call_lookupPath (path : String) : r.call t (.lookupPath path) =
    match t.atPath? path with
    | some entry => (.entry entry, t)
    | none =>
      match r.catalog.autoRegistered.find? (fun b => (r.catalog.schemaOf b).type.path == path) with
      | some type => r.call t (.lookup type)
      | none => (.entry (.error (.beanNotFound path)), t) := by
  change call.answer t (match t.atPath? path with
    | some entry => ofExcept entry
    | none => _) = _
  cases t.atPath? path with
  | some entry => cases entry <;> rfl
  | none =>
    dsimp only
    cases r.catalog.autoRegistered.find? _ <;> rfl

theorem call_register (d : Descriptor) : r.call t (.register d) =
    if t.contains d.type then (.entry (.error (.duplicateRegistration d.type)), t)
    else (.entry (.ok (r.adopt d)), {
      entries := t.entries.insert d.type (.ok (r.adopt d))
      paths := t.paths.insert d.type.path d.type }) := by
  rw [← r.type_adopt d]
  change call.answer t (if t.contains (r.adopt d).type then _ else _) = _
  split <;> rfl

variable {t}

theorem call_register_of_new {d : Descriptor} (h : t.entries.get? d.type = none) :
    r.call t (.register d) = (.entry (.ok (r.adopt d)), {
      entries := t.entries.insert d.type (.ok (r.adopt d))
      paths := t.paths.insert d.type.path d.type }) := by
  rw [call_register, RegistryTable.contains_eq_false.mpr h, if_neg Bool.false_ne_true]

theorem call_register_of_entry {d : Descriptor} (h : t.entries.get? d.type = some entry) :
    r.call t (.register d) = (.entry (.error (.duplicateRegistration d.type)), t) := by
  rw [call_register, if_pos (RegistryTable.contains_eq_true.mpr ⟨entry, h⟩)]

variable (t)

/-- A call that looks up a type comes to what `lookup` does, but for a type without an entry that is
not to be found. -/
theorem call_of_looksUp {x : Call} (hx : x.LooksUp type) :
    r.call t x = r.call t (.lookup type) ∨
      x = .lookupType (.bean type) ∧ t.entries.get? type = none ∧
        type ∉ r.catalog.autoRegistered ∧
        r.call t x = (.entry (.error (.beanNotFound type.path)), t) := by
  cases x with
  | lookup type' =>
    cases hx
    exact .inl rfl
  | lookupBean b =>
    cases hx
    exact .inl rfl
  | lookupType ty =>
    cases hx
    rw [call_lookupType]
    by_cases hfound : t.contains type || r.catalog.autoRegistered.contains type
    · exact .inl (if_pos hfound)
    · have hmissing := not_or.mp (mt Bool.or_eq_true_iff.mpr hfound)
      refine .inr ⟨rfl, ?_, ?_, if_neg hfound⟩
      · exact RegistryTable.contains_eq_false.mp (Bool.eq_false_iff.mpr hmissing.1)
      · exact mt List.contains_iff_mem.mpr hmissing.2
  | lookupPath _ | register _ | size | contains _ => exact hx.elim

theorem call_of_looksUp_of_entry {x : Call} (hx : x.LooksUp type)
    (h : t.entries.get? type = some entry) : r.call t x = (.entry entry, t) := by
  rcases r.call_of_looksUp t hx with hcall | ⟨-, hnone, -⟩
  · rw [hcall, r.call_lookup_of_entry h]
  · cases hnone.symm.trans h

theorem call_lookup_enters (type : BeanType) :
    ∃ entry, (r.call t (.lookup type)).1 = .entry entry ∧
      (r.call t (.lookup type)).2.entries.get? type = some entry := by
  refine ⟨(r.lookup type).outcome t, rfl, ?_⟩
  exact (r.get?_after_lookup type t type).trans (if_pos rfl)

/-- Every call registers a descriptor, comes to what `lookup` does for some type, or changes nothing. -/
theorem call_forms (x : Call) : (∃ d, x = .register d) ∨
    (∃ type, (x.LooksUp type ∨ type ∈ r.catalog.autoRegistered) ∧
      r.call t x = r.call t (.lookup type)) ∨
    (r.call t x).2 = t := by
  cases x with
  | lookup type => exact .inr (.inl ⟨type, .inl rfl, rfl⟩)
  | lookupBean b => exact .inr (.inl ⟨b.type, .inl rfl, rfl⟩)
  | lookupType ty =>
    by_cases hbean : ∃ type, ty = .bean type
    · obtain ⟨type, rfl⟩ := hbean
      have hx : (Call.lookupType (.bean type)).LooksUp type := rfl
      rcases r.call_of_looksUp t hx with h | ⟨-, -, -, h⟩
      · exact .inr (.inl ⟨type, .inl hx, h⟩)
      · exact .inr (.inr (by rw [h]))
    · rw [call_lookupType_of_not_bean r t fun type h => hbean ⟨type, h⟩]
      exact .inr (.inr rfl)
  | lookupPath path =>
    rw [call_lookupPath]
    cases t.atPath? path with
    | some entry => exact .inr (.inr rfl)
    | none =>
      cases hfind : r.catalog.autoRegistered.find? _ with
      | some type => exact .inr (.inl ⟨type, .inr (List.mem_of_find?_eq_some hfind), rfl⟩)
      | none => exact .inr (.inr rfl)
  | register d => exact .inl ⟨d, rfl⟩
  | size | contains _ => exact .inr (.inr rfl)

/-- A call leaves the table as it is, or enters a type that had no entry: one that is looked up or that
may be found, or the type of a descriptor. -/
theorem call_cases (x : Call) : (r.call t x).2 = t ∨
    (∃ type, t.entries.get? type = none ∧ (x.LooksUp type ∨ type ∈ r.catalog.autoRegistered) ∧
      r.call t x = r.call t (.lookup type)) ∨
    ∃ d, t.entries.get? d.type = none ∧ x = .register d := by
  rcases r.call_forms t x with ⟨d, rfl⟩ | ⟨type, hnamed, hcall⟩ | hsame
  · cases h : t.entries.get? d.type with
    | none => exact .inr (.inr ⟨d, h, rfl⟩)
    | some entry => exact .inl (by rw [r.call_register_of_entry h])
  · cases h : t.entries.get? type with
    | none => exact .inr (.inl ⟨type, h, hnamed, hcall⟩)
    | some entry => exact .inl (by rw [hcall, r.call_lookup_of_entry h])
  · exact .inl hsame

end Registry

/-! ### Entries stay -/

namespace RegistryTable

/-- The table has what the other one has entered, and no fewer entries. -/
structure Extends (t' t : RegistryTable) : Prop where
  keeps : ∀ type entry, t.entries.get? type = some entry → t'.entries.get? type = some entry
  size_le : t.size ≤ t'.size

variable {t t' t'' : RegistryTable}

theorem Extends.refl (t : RegistryTable) : t.Extends t :=
  ⟨fun _ _ h => h, Nat.le_refl _⟩

theorem Extends.trans (h' : t''.Extends t') (h : t'.Extends t) : t''.Extends t where
  keeps type entry hentry := h'.keeps type entry (h.keeps type entry hentry)
  size_le := Nat.le_trans h.size_le h'.size_le

theorem extends_of_new {type : BeanType} (h : t.entries.get? type = none) (entry : Entry)
    (paths : Table String BeanType) :
    RegistryTable.Extends { entries := t.entries.insert type entry, paths } t where
  keeps type' entry' hentry := by
    have hne : type ≠ type' := by
      rintro rfl
      cases h.symm.trans hentry
    rw [Table.get?_insert, if_neg hne, hentry]
  size_le := by
    unfold size
    rw [Table.size_insert_of_new h]
    exact Nat.le_succ _

end RegistryTable

theorem Registry.call_extends (r : Registry) (t : RegistryTable) (x : Call) :
    (r.call t x).2.Extends t := by
  rcases r.call_cases t x with h | ⟨type, hnew, -, h⟩ | ⟨d, hnew, rfl⟩
  · rw [h]
    exact .refl t
  · rw [h, r.call_lookup_of_new hnew]
    exact RegistryTable.extends_of_new hnew _ _
  · rw [r.call_register_of_new hnew]
    exact RegistryTable.extends_of_new hnew _ _

theorem Catalog.run_extends (c : Catalog) (t : RegistryTable)
    (calls : List (Registry.Overrides × Registry.Call)) : (c.run t calls).2.Extends t := by
  induction calls generalizing t with
  | nil => exact .refl t
  | cons call calls ih => exact (ih _).trans ((c.handle call.1).call_extends t call.2)

/-- A type is entered once: whatever is called from then on, and through whichever handles, its entry
stays and is what it is looked up as. -/
structure RegistryTable.OnceOnly (t : RegistryTable) (c : Catalog) : Prop where
  kept : ∀ calls type entry, t.entries.get? type = some entry →
    (c.run t calls).2.entries.get? type = some entry ∧
      ∀ o x, x.LooksUp type →
        (c.handle o).call (c.run t calls).2 x = (.entry entry, (c.run t calls).2)
  /-- What a look-up answers is the entry of the type from then on. -/
  answered : ∀ o x type, x.LooksUp type →
    (∃ entry, ((c.handle o).call t x).1 = .entry entry ∧
      ((c.handle o).call t x).2.entries.get? type = some entry) ∨
    x = .lookupType (.bean type) ∧ t.entries.get? type = none ∧ type ∉ c.autoRegistered
  registers : ∀ o d, (∃ D, ((c.handle o).call t (.register d)).1 = .entry (.ok D)) ↔
    t.entries.get? d.type = none
  /-- What a registration answers is the entry of the type from then on. -/
  registered : ∀ o d D, ((c.handle o).call t (.register d)).1 = .entry (.ok D) →
    D.type = d.type ∧ ((c.handle o).call t (.register d)).2.entries.get? d.type = some (.ok D)
  rejected : ∀ o d e, ((c.handle o).call t (.register d)).1 = .entry (.error e) →
    e = .duplicateRegistration d.type ∧ ((c.handle o).call t (.register d)).2 = t
  grows : ∀ calls, t.size ≤ (c.run t calls).2.size

theorem Catalog.onceOnly (c : Catalog) (t : RegistryTable) : t.OnceOnly c := by
  constructor
  case kept =>
    intro calls type entry h
    have hkept := (c.run_extends t calls).keeps type entry h
    exact ⟨hkept, fun o x hx => (c.handle o).call_of_looksUp_of_entry _ hx hkept⟩
  case answered =>
    intro o x type hx
    rcases (c.handle o).call_of_looksUp t hx with hcall | ⟨hx', hnone, hunknown, -⟩
    · rw [hcall]
      exact .inl ((c.handle o).call_lookup_enters t type)
    · exact .inr ⟨hx', hnone, hunknown⟩
  case registers =>
    intro o d
    cases h : t.entries.get? d.type with
    | none => simp [(c.handle o).call_register_of_new h]
    | some entry => simp [(c.handle o).call_register_of_entry h]
  case registered =>
    intro o d D hD
    cases h : t.entries.get? d.type with
    | none =>
      rw [(c.handle o).call_register_of_new h] at hD ⊢
      cases hD
      exact ⟨(c.handle o).type_adopt d, Table.get?_insert_self _ _ _⟩
    | some entry =>
      rw [(c.handle o).call_register_of_entry h] at hD
      cases hD
  case rejected =>
    intro o d e he
    cases h : t.entries.get? d.type with
    | none =>
      rw [(c.handle o).call_register_of_new h] at he
      cases he
    | some entry =>
      rw [(c.handle o).call_register_of_entry h] at he ⊢
      cases he
      exact ⟨rfl, rfl⟩
  case grows =>
    intro calls
    exact (c.run_extends t calls).size_le

end Beans
