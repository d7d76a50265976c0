import Beans.Registry
/-!
# Entries of registries

A look-up comes to the entry of the type, and leaves one behind where there was none. What is looked up
through handles on one catalog only ever enters descriptions of the schemas that the catalog has, under
the strategies and with the converters of the handles.
-/

set_option autoImplicit false

namespace Beans

namespace LookupM

variable {α β : Type}

def outcome (x : LookupM α) (t : RegistryTable) : Except BeanError α :=
  (x.run.run t).result.1

def after (x : LookupM α) (t : RegistryTable) : RegistryTable :=
  (x.run.run t).result.2

theorem outcome_bind (x : LookupM α) (f : α → LookupM β) (t : RegistryTable) :
    (x >>= f).outcome t = x.outcome t >>= fun a => (f a).outcome (x.after t) := by
  have h : (x >>= f).outcome t = (ExceptT.bindCont f (x t).result.1 (x t).result.2).result.1 := rfl
  rw [h]
  change _ = (x t).result.1 >>= fun a => (f a (x t).result.2).result.1
  cases (x t).result.1 <;> rfl

variable {x : LookupM α} {f : α → LookupM β} {v : α} {t t' : RegistryTable}

theorem result_bind_of_ok (h : (x.run.run t).result = (.ok v, t')) :
    ((x >>= f).run.run t).result = ((f v).run.run t').result := by
  have hbind : ((x >>= f).run.run t).result =
      (ExceptT.bindCont f (x.run.run t).result.1 (x.run.run t).result.2).result := rfl
  rw [hbind, h]
  rfl

theorem result_bind_of_error {e : BeanError} (h : (x.run.run t).result = (.error e, t')) :
    ((x >>= f).run.run t).result = (.error e, t') := by
  have hbind : ((x >>= f).run.run t).result =
      (ExceptT.bindCont f (x.run.run t).result.1 (x.run.run t).result.2).result := rfl
  rw [hbind, h]
  rfl

/-- What comes after an operation matters only as far as the operation succeeds. -/
theorem result_bind_congr {g : α → LookupM β} (h : ∀ v, x.outcome t = .ok v →
      ((f v).run.run (x.after t)).result = ((g v).run.run (x.after t)).result) :
    ((x >>= f).run.run t).result = ((x >>= g).run.run t).result := by
  have hresult : (x.run.run t).result = (x.outcome t, x.after t) := rfl
  cases hx : x.outcome t with
  | error e =>
    rw [hx] at hresult
    rw [result_bind_of_error hresult, result_bind_of_error hresult]
  | ok v =>
    rw [hx] at hresult
    rw [result_bind_of_ok hresult, result_bind_of_ok hresult]
    exact h v hx

theorem after_bind_of_ok (h : x.outcome t = .ok v) :
    (x >>= f).after t = (f v).after (x.after t) := by
  have hx : (x.run.run t).result = (.ok v, x.after t) := by
    rw [← h]
    rfl
  exact congrArg Prod.snd (result_bind_of_ok hx)

theorem result_ofExcept (r : Except BeanError α) (t : RegistryTable) :
    ((ofExcept r : LookupM α).run.run t).result = (r, t) := by
  cases r <;> rfl

theorem outcome_ofExcept (r : Except BeanError α) (t : RegistryTable) :
    (ofExcept r : LookupM α).outcome t = r :=
  congrArg Prod.fst (result_ofExcept r t)

theorem after_ofExcept (r : Except BeanError α) (t : RegistryTable) :
    (ofExcept r : LookupM α).after t = t :=
  congrArg Prod.snd (result_ofExcept r t)

end LookupM

/-- The entry of a type, if there is one, is what the description of a schema came to. -/
def RegistryTable.Describes (t : RegistryTable) (type : BeanType) (s : Schema) : Prop :=
  ∀ entry, t.entries.get? type = some entry → ∃ kind converter,
    entry = (Descriptor.ofSchema s kind).result.map fun D => { D with converter }

theorem RegistryTable.describes_empty (type : BeanType) (s : Schema) :
    (∅ : RegistryTable).Describes type s :=
  nofun

namespace Registry

variable (r : Registry) (type : BeanType) (t : RegistryTable)

theorem describe_eq : (r.describe type).result =
    (Descriptor.ofSchema (r.catalog.schemaOf type) (r.kind.getD (r.catalog.declaredKind type))).result.map
      fun D => { D with converter := r.converter } := by
  unfold describe
  rw [Logged.result_bind]
  cases (Descriptor.ofSchema _ _).result <;> rfl

theorem result_lookup : ((r.lookup type).run.run t).result = match t.entries.get? type with
    | some entry => (entry, t)
    | none => t.publish type (r.catalog.schemaOf type).type.path (r.describe type).result := by
  unfold lookup
  change ((match t.entries.get? type with
    | some entry => ofExcept entry
    | none => _ : LookupM Descriptor).run.run t).result = _
  cases t.entries.get? type with
  | some entry => exact LookupM.result_ofExcept entry t
  | none =>
    let published := t.publish type (r.catalog.schemaOf type).type.path (r.describe type).result
    exact LookupM.result_ofExcept published.1 published.2

theorem result_lookup_of_entry {entry : Entry} (h : t.entries.get? type = some entry) :
    ((r.lookup type).run.run t).result = (entry, t) := by
  rw [result_lookup, h]

theorem outcome_lookup :
    (r.lookup type).outcome t = (t.entries.get? type).getD (r.describe type).result := by
  unfold LookupM.outcome
  rw [result_lookup]
  cases h : t.entries.get? type with
  | some entry => rfl
  | none => simp only [RegistryTable.publish, Table.getOrInsert, h, Option.getD_none]

theorem get?_after_lookup (type' : BeanType) :
    ((r.lookup type).after t).entries.get? type' =
      if type = type' then some ((r.lookup type).outcome t) else t.entries.get? type' := by
  rw [outcome_lookup]
  unfold LookupM.after
  rw [result_lookup]
  cases h : t.entries.get? type with
  | some entry =>
    dsimp only
    split
    · next hsame => rw [← hsame, h, Option.getD_some]
    · rfl
  | none =>
    simp only [RegistryTable.publish, Table.getOrInsert, h, Option.getD_none]
    exact Table.get?_insert t.entries type type' _

/-- What has an entry after a look-up had it before, or is the type, which is described now. -/
theorem entry_after_lookup {type' : BeanType} {entry : Entry}
    (h : ((r.lookup type).after t).entries.get? type' = some entry) :
    t.entries.get? type' = some entry ∨ type' = type ∧ entry = (r.describe type).result := by
  rw [get?_after_lookup] at h
  split at h
  · next hsame =>
    subst hsame
    rw [outcome_lookup] at h
    cases hentry : t.entries.get? type with
    | some entry' =>
      rw [hentry] at h
      exact .inl h
    | none =>
      rw [hentry] at h
      exact .inr ⟨rfl, (Option.some.inj h).symm⟩
  · exact .inl h

end Registry

namespace RegistryTable.Describes

variable {t : RegistryTable} {type : BeanType} {r : Registry}

theorem outcome_lookup (h : t.Describes type (r.catalog.schemaOf type)) : ∃ kind converter,
    (r.lookup type).outcome t =
      (Descriptor.ofSchema (r.catalog.schemaOf type) kind).result.map fun D => { D with converter } := by
  rw [Registry.outcome_lookup]
  cases hentry : t.entries.get? type with
  | some entry => exact h entry hentry
  | none => exact ⟨_, _, r.describe_eq type⟩

/-- Whatever is looked up through a handle on a catalog, the entries stay descriptions of its schemas. -/
theorem after_lookup (h : t.Describes type (r.catalog.schemaOf type)) (type' : BeanType) :
    ((r.lookup type').after t).Describes type (r.catalog.schemaOf type) := by
  intro entry hentry
  rcases r.entry_after_lookup type' t hentry with hentry | ⟨rfl, rfl⟩
  · exact h entry hentry
  · exact ⟨_, _, r.describe_eq type⟩

end RegistryTable.Describes

end Beans
