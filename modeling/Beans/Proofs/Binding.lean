import Beans.Accessor.Strategy
import Beans.Proofs.Lookup
import Beans.Proofs.Outcome
/-!
# What a strategy makes of a binding

Accessors agree if no use of them tells them apart. Looking the members of a binding up at each call
comes to the same as looking them up once, whatever the schema declares. A generated accessor agrees
with both where its entry holds the members that the binding names.
-/

set_option autoImplicit false

namespace Beans

structure Accessor.Agrees (a b : Accessor) : Prop where
  read : a.read = b.read
  write : a.write = b.write
  isWritable : a.isWritable = b.isWritable

namespace Accessor.Agrees

variable {a b c : Accessor}

theorem refl (a : Accessor) : a.Agrees a := ⟨rfl, rfl, rfl⟩

theorem symm (h : a.Agrees b) : b.Agrees a := ⟨h.read.symm, h.write.symm, h.isWritable.symm⟩

theorem trans (hab : a.Agrees b) (hbc : b.Agrees c) : a.Agrees c :=
  ⟨hab.read.trans hbc.read, hab.write.trans hbc.write, hab.isWritable.trans hbc.isWritable⟩

end Accessor.Agrees

/-! ### Late and early look-up -/

theorem ReflectiveAccessor.agrees_handle {s : Schema} {b : Binding} {read : Reader}
    {write : Option Writer} (hr : b.read.find? s = some read)
    (hw : b.write.bind (·.find? s) = write) (hbound : b.write.isSome = write.isSome) :
    (Accessor.reflective ⟨s, b⟩).Agrees (.handle ⟨b.property, read, write⟩) := by
  refine ⟨?_, ?_, hbound⟩
  · funext bean
    simp only [Accessor.read, ReflectiveAccessor.read, HandleAccessor.read, hr]
  · funext v
    simp only [Accessor.write, ReflectiveAccessor.write, HandleAccessor.write, hw]

/-- A binding is refused by both look-ups for the same reason, or makes accessors that agree. -/
theorem Accessor.reflective_sameOutcome_handle (s : Schema) (b : Binding) :
    SameOutcome Accessor.Agrees (Accessor.ofBinding? s b .reflective)
      (Accessor.ofBinding? s b .handle) := by
  simp only [Accessor.ofBinding?, ReflectiveAccessor.ofBinding?, HandleAccessor.ofBinding?]
  cases hr : b.read.find? s with
  | none => exact .error _
  | some read =>
    cases hb : b.write with
    | none =>
      exact .ok (ReflectiveAccessor.agrees_handle hr (by rw [hb]; rfl) (by rw [hb]; rfl))
    | some w =>
      cases hw : w.find? s with
      | none =>
        simp only [hw]
        exact .error _
      | some write =>
        simp only [hw]
        exact .ok (ReflectiveAccessor.agrees_handle hr (by rw [hb]; exact hw) (by rw [hb]; rfl))

/-! ### Bindings whose members are known -/

/-- The schema has these functions for the members that the binding names. -/
structure Binding.Resolves (b : Binding) (s : Schema) (read : Reader) (write : Option Writer) :
    Prop where
  read : b.read.find? s = some read
  write : b.write.map (·.find? s) = write.map some

namespace Binding.Resolves

variable {b : Binding} {s : Schema} {read : Reader} {write : Option Writer}

theorem handle (h : b.Resolves s read write) :
    Accessor.ofBinding? s b .handle = .ok (.handle ⟨b.property, read, write⟩) := by
  obtain ⟨hr, hw⟩ := h
  simp only [Accessor.ofBinding?, HandleAccessor.ofBinding?, hr]
  cases hb : b.write with
  | none =>
    rw [hb] at hw
    cases write with
    | none => rfl
    | some f => simp at hw
  | some w =>
    rw [hb] at hw
    cases write with
    | none => simp at hw
    | some f =>
      have hf : w.find? s = some f := by simpa using hw
      simp only [hf]
      rfl

theorem isSome_write (h : b.Resolves s read write) : b.write.isSome = write.isSome := by
  simpa using congrArg Option.isSome h.write

/-- Under every strategy the binding makes an accessor of those functions, if the generated entry of
the property holds them as well. -/
theorem exists_accessor (h : b.Resolves s read write)
    (hg : s.generated? b.property = some ⟨b.property, read, write⟩) (kind : AccessorKind) :
    ∃ a, Accessor.ofBinding? s b kind = .ok a ∧
      a.Agrees (.handle ⟨b.property, read, write⟩) := by
  cases kind with
  | handle => exact ⟨_, h.handle, .refl _⟩
  | reflective => exact (Accessor.reflective_sameOutcome_handle s b).exists_left h.handle
  | generated =>
    have hw := h.isSome_write
    refine ⟨.generated ⟨⟨b.property, read, write⟩, b.write.isSome⟩, ?_, rfl, ?_, hw⟩
    · simp only [Accessor.ofBinding?, GeneratedAccessor.ofBinding?, hg, hw]
      cases write <;> rfl
    · funext v
      simp only [Accessor.write, GeneratedAccessor.write, HandleAccessor.write, hw]
      cases write <;> rfl

theorem sameOutcome (h : b.Resolves s read write)
    (hg : s.generated? b.property = some ⟨b.property, read, write⟩) (kind kind' : AccessorKind) :
    SameOutcome Accessor.Agrees (Accessor.ofBinding? s b kind) (Accessor.ofBinding? s b kind') := by
  obtain ⟨a, ha, hagrees⟩ := h.exists_accessor hg kind
  obtain ⟨a', ha', hagrees'⟩ := h.exists_accessor hg kind'
  rw [ha, ha']
  exact .ok (hagrees.trans hagrees'.symm)

end Binding.Resolves

/-- There are members of the names that the binding gives, and a generated entry of the property. -/
structure Binding.Reachable (b : Binding) (s : Schema) : Prop where
  read : (b.read.find? s).isSome = true
  write : ∀ w, b.write = some w → (w.find? s).isSome = true
  generated : ∃ e, s.generated? b.property = some e ∧ (b.write.isSome = true → e.write.isSome = true)

namespace Binding.Reachable

variable {b : Binding} {s : Schema}

theorem resolves (h : b.Reachable s) : ∃ read write, b.Resolves s read write := by
  obtain ⟨read, hread⟩ := Option.isSome_iff_exists.mp h.read
  cases hb : b.write with
  | none => exact ⟨read, none, hread, by rw [hb]; rfl⟩
  | some w =>
    obtain ⟨write, hwrite⟩ := Option.isSome_iff_exists.mp (h.write w hb)
    exact ⟨read, some write, hread, by rw [hb]; exact congrArg some hwrite⟩

theorem exists_accessor (h : b.Reachable s) (kind : AccessorKind) :
    ∃ a, Accessor.ofBinding? s b kind = .ok a := by
  obtain ⟨read, write, hresolves⟩ := h.resolves
  cases kind with
  | handle => exact ⟨_, hresolves.handle⟩
  | reflective =>
    obtain ⟨a, ha, _⟩ := (Accessor.reflective_sameOutcome_handle s b).exists_left hresolves.handle
    exact ⟨a, ha⟩
  | generated =>
    obtain ⟨e, he, hwrite⟩ := h.generated
    refine ⟨.generated ⟨e, b.write.isSome⟩, ?_⟩
    simp only [Accessor.ofBinding?, GeneratedAccessor.ofBinding?, he]
    cases hb : b.write with
    | none => rfl
    | some w =>
      obtain ⟨f, hf⟩ := Option.isSome_iff_exists.mp (hwrite (by rw [hb]; rfl))
      simp only [hf]
      rfl

theorem sameOutcome (h : b.Reachable s) (kind kind' : AccessorKind) :
    SameOutcome (fun _ _ => True) (Accessor.ofBinding? s b kind)
      (Accessor.ofBinding? s b kind') := by
  obtain ⟨a, ha⟩ := h.exists_accessor kind
  obtain ⟨a', ha'⟩ := h.exists_accessor kind'
  rw [ha, ha']
  exact .ok trivial

end Binding.Reachable

/-! ### What a successful binding says -/

theorem ReflectiveAccessor.eq_of_ofBinding? {s : Schema} {b : Binding} {a : ReflectiveAccessor}
    (h : ReflectiveAccessor.ofBinding? s b = .ok a) : a = ⟨s, b⟩ := by
  unfold ofBinding? at h
  split at h
  · cases h
  · split at h
    · split at h
      · cases h
      · cases h; rfl
    · cases h; rfl

theorem HandleAccessor.resolves_of_ofBinding? {s : Schema} {b : Binding} {a : HandleAccessor}
    (h : HandleAccessor.ofBinding? s b = .ok a) :
    a.property = b.property ∧ b.Resolves s a.reader a.writer := by
  unfold ofBinding? at h
  cases hr : b.read.find? s with
  | none => simp only [hr] at h; cases h
  | some read =>
    cases hb : b.write with
    | none =>
      simp only [hr, hb] at h
      cases h
      exact ⟨rfl, hr, by rw [hb]; rfl⟩
    | some w =>
      cases hw : w.find? s with
      | none => simp only [hr, hb, hw] at h; cases h
      | some write =>
        simp only [hr, hb, hw] at h
        cases h
        exact ⟨rfl, hr, by rw [hb]; exact congrArg some hw⟩

theorem GeneratedAccessor.entry_of_ofBinding? {s : Schema} {b : Binding} {a : GeneratedAccessor}
    (h : GeneratedAccessor.ofBinding? s b = .ok a) :
    s.generated? b.property = some a.entry ∧ a.isWritable = b.write.isSome := by
  unfold ofBinding? at h
  cases hg : s.generated? b.property with
  | none => simp only [hg] at h; cases h
  | some entry =>
    simp only [hg] at h
    split at h
    · cases h
    · cases h; exact ⟨rfl, rfl⟩

/-- Looked up at each call or once, the members that the binding names are what the accessor calls. -/
theorem Accessor.agrees_of_ofBinding? {s : Schema} {b : Binding} {kind : AccessorKind} {a : Accessor}
    (hkind : kind ≠ .generated) (h : Accessor.ofBinding? s b kind = .ok a) :
    ∃ read write, b.Resolves s read write ∧ a.Agrees (.handle ⟨b.property, read, write⟩) := by
  have hhandle : ∃ c, Accessor.ofBinding? s b .handle = .ok c ∧ a.Agrees c := by
    cases kind with
    | reflective => exact (Accessor.reflective_sameOutcome_handle s b).exists_right h
    | handle => exact ⟨a, h, .refl a⟩
    | generated => exact absurd rfl hkind
  obtain ⟨c, hc, hagrees⟩ := hhandle
  obtain ⟨r, hr, rfl⟩ := map_eq_ok.mp hc
  obtain ⟨hproperty, hresolves⟩ := HandleAccessor.resolves_of_ofBinding? hr
  exact ⟨r.reader, r.writer, hresolves, hproperty ▸ hagrees⟩

theorem Accessor.isWritable_of_ofBinding? {s : Schema} {b : Binding} {kind : AccessorKind}
    {a : Accessor} (h : Accessor.ofBinding? s b kind = .ok a) : a.isWritable = b.write.isSome := by
  cases kind with
  | reflective =>
    obtain ⟨r, hr, rfl⟩ := map_eq_ok.mp h
    rw [ReflectiveAccessor.eq_of_ofBinding? hr]
    rfl
  | handle =>
    obtain ⟨r, hr, rfl⟩ := map_eq_ok.mp h
    exact (HandleAccessor.resolves_of_ofBinding? hr).2.isSome_write.symm
  | generated =>
    obtain ⟨r, hr, rfl⟩ := map_eq_ok.mp h
    exact (GeneratedAccessor.entry_of_ofBinding? hr).2

/-! ### What a refusal says -/

/-- What a binding is refused for, if it is not for its reader. -/
theorem Accessor.name_of_ofBinding? {s : Schema} {b : Binding} {kind : AccessorKind} {type : BeanType}
    {name : String} (h : ofBinding? s b kind = .error (.accessorNotFound type name)) :
    name = b.property ∨ ∃ w, b.write = some w ∧ name = w.name := by
  have hhandle (h : ofBinding? s b .handle = .error (.accessorNotFound type name)) :
      ∃ w, b.write = some w ∧ name = w.name := by
    simp only [ofBinding?, HandleAccessor.ofBinding?] at h
    cases hread : b.read.find? s with
    | none =>
      rw [hread] at h
      cases h
    | some read =>
      cases hwrite : b.write with
      | none =>
        simp only [hread, hwrite] at h
        cases h
      | some w =>
        simp only [hread, hwrite] at h
        cases hfind : w.find? s with
        | none =>
          rw [hfind] at h
          cases h
          exact ⟨w, rfl, rfl⟩
        | some write =>
          rw [hfind] at h
          cases h
  cases kind with
  | reflective => exact .inr (hhandle ((reflective_sameOutcome_handle s b).error_right h))
  | handle => exact .inr (hhandle h)
  | generated =>
    left
    simp only [ofBinding?, GeneratedAccessor.ofBinding?] at h
    cases hentry : s.generated? b.property with
    | none =>
      rw [hentry] at h
      cases h
    | some entry =>
      simp only [hentry] at h
      split at h
      · cases h
        rfl
      · cases h

end Beans
