import Beans.Proofs.BuilderTyping
/-!
# Assignments

A call that is not refused assigns to one property. What a builder holds for a property after a run is
what the last assignment to it stored, so nothing else about the run can be told from the bean that is
built: not which calls were refused, not which values were replaced, and not in which order different
properties were set.
-/

set_option autoImplicit false

namespace Beans.Builder

variable {s : Schema} {kind : AccessorKind} {d : Descriptor} {b b' : Builder} {p q : Property}
  {name : String} {c : Call} {i : Nat}

/-! ### Slots of properties -/

/-- Each slot belongs to one property. -/
structure Laid (b : Builder) : Prop where
  distinct : b.descriptor.propertyNames.Nodup
  slot : ∀ p ∈ b.descriptor.properties, ∀ i, p.slot? = some i →
    b.descriptor.properties[i]? = some p ∧ i < b.slots.length
  property : ∀ i, i < b.slots.length → ∃ p ∈ b.descriptor.properties, p.slot? = some i

theorem length_slots (h : (Descriptor.ofSchema s kind).result = .ok d)
    (converter : ConverterChoice) :
    { d with converter }.builder.slots.length = s.ownNames.length := by
  have hschema : d.isMutable = s.isMutable := by
    rw [Descriptor.isMutable, (Descriptor.ofSchema_eq_ok h).2.2.1]
  have hcount : (Schema.slotTypes d.properties).length = s.ownNames.length :=
    Descriptor.length_slotTypes h
  cases hs : s.isMutable with
  | true =>
    change (if d.isMutable then List.replicate d.slotCount _ else _ : List BuilderSlot).length = _
    rw [hschema, hs, if_pos rfl, List.length_replicate, ← hcount, Schema.slotTypes, List.length_map]
    rfl
  | false =>
    rw [← hcount]
    exact (holds_builder hs h).length_eq.symm

theorem laid_builder (h : (Descriptor.ofSchema s kind).result = .ok d)
    (converter : ConverterChoice) : { d with converter }.builder.Laid := by
  have hlength := length_slots h converter
  have hwell := Descriptor.ofSchema_wellFormed h
  constructor
  case distinct => exact hwell.distinct
  case slot =>
    intro p hp i hi
    obtain ⟨j, hj⟩ := List.mem_iff_getElem?.mp hp
    have hslot := hwell.slot j p hj
    rw [hi] at hslot
    split at hslot
    · rename_i hown
      cases hslot
      exact ⟨hj, hlength ▸ hown⟩
    · cases hslot
  case property =>
    intro i hi
    rw [hlength] at hi
    have hbound : i < d.properties.length := by
      have hnames : d.properties.length = (s.ownNames ++ s.derivedNames).length := by
        rw [← hwell.names, Descriptor.propertyNames, List.length_map]
      rw [hnames, List.length_append]
      omega
    have hp : d.properties[i]? = some d.properties[i] := List.getElem?_eq_getElem hbound
    refine ⟨d.properties[i], List.mem_of_getElem? hp, ?_⟩
    rw [hwell.slot i _ hp, if_pos hi]

theorem Laid.set (h : b.Laid) {v : Option Value} (hset : b.set name v = .ok b') : b'.Laid := by
  obtain ⟨p, slot, w, _, _, rfl⟩ := set_eq_ok.mp hset
  refine ⟨h.distinct, ?_, ?_⟩ <;> simp only [List.length_set]
  · exact h.slot
  · exact h.property

theorem Laid.call (h : b.Laid) (c : Call) : (b.call c).2.Laid := by
  rcases b.call_cases c with ⟨_, hsame⟩ | ⟨name, v, _, _, _, hset⟩
  · rw [hsame]
    exact h
  · exact h.set hset

/-! ### Assignments of calls -/

/-- A value, or null, that was offered to a property, and what the builder holds for it. -/
structure Assignment where
  offered : Option Value
  stored : Option Value

instance (c : Call) (name : String) : Decidable (c.Sets name) :=
  match c with
  | .set n _ | .setText n _ => inferInstanceAs (Decidable (n = name))
  | .get _ => .isFalse id

/-- The assignment that a call makes to the property of a name. A call that is refused makes none. -/
def assignment? (b : Builder) (name : String) (c : Call) : Option Assignment :=
  match b.call c with
  | (.done, after) =>
    if c.Sets name then do
      return { offered := ← c.offered? b.descriptor, stored := ← (after.get name).toOption }
    else none
  | _ => none

def assignments (b : Builder) (name : String) : List Call → List Assignment
  | [] => []
  | c :: calls => (b.assignment? name c).toList ++ (b.call c).2.assignments name calls

def lastAssignment? (b : Builder) (name : String) (calls : List Call) : Option Assignment :=
  (b.assignments name calls).getLast?

theorem buildable_congr (h : b.descriptor = b'.descriptor) (name : String) :
    b.buildable name = b'.buildable name := by
  unfold buildable
  rw [h]

theorem get_set_self {slot : Nat} {w : Option Value} (hbuildable : b.buildable name = .ok (p, slot))
    (hslot : slot < b.slots.length) :
    { b with slots := b.slots.set slot { value := w, isSet := true } }.get name = .ok w := by
  unfold get
  change (b.buildable name >>= _) = _
  rw [hbuildable]
  change Except.ok ((b.slots.set slot _)[slot]?.bind (·.value)) = _
  rw [List.getElem?_set_self hslot]
  rfl

theorem Laid.lt_length (h : b.Laid) {slot : Nat} (hbuildable : b.buildable name = .ok (p, slot)) :
    slot < b.slots.length := by
  obtain ⟨hfind, hslot, _⟩ := buildable_eq_ok.mp hbuildable
  exact (h.slot p (Descriptor.of_find? hfind).1 slot hslot).2

/-- An assignment offers something that its property accepts, and stores what this comes to. -/
theorem assignment?_eq_some (h : b.Laid) {a : Assignment} :
    b.assignment? name c = some a ↔ c.Sets name ∧ c.offered? b.descriptor = some a.offered ∧
      ∃ p slot, b.buildable name = .ok (p, slot) ∧ p.accept? a.offered = .ok a.stored := by
  constructor
  · intro hassigns
    unfold assignment? at hassigns
    split at hassigns
    · rename_i after hcall
      split at hassigns
      · rename_i hsets
        obtain ⟨v, hoffered, hassigns⟩ := Option.bind_eq_some_iff.mp hassigns
        obtain ⟨w, hget, hassigns⟩ := Option.bind_eq_some_iff.mp hassigns
        cases hassigns
        rw [call_of_offered hsets hoffered] at hcall
        cases hset : b.set name v with
        | error e =>
          rw [hset] at hcall
          cases hcall
        | ok b' =>
          rw [hset] at hcall
          cases hcall
          obtain ⟨p, slot, w', hbuildable, haccept, rfl⟩ := set_eq_ok.mp hset
          rw [toOption_eq_some, get_set_self hbuildable (h.lt_length hbuildable)] at hget
          cases hget
          exact ⟨hsets, hoffered, p, slot, hbuildable, haccept⟩
      · cases hassigns
    · cases hassigns
  · rintro ⟨hsets, hoffered, p, slot, hbuildable, haccept⟩
    have hset := set_eq_ok.mpr ⟨p, slot, a.stored, hbuildable, haccept, rfl⟩
    have hget := get_set_self (w := a.stored) hbuildable (h.lt_length hbuildable)
    unfold assignment?
    rw [call_of_offered hsets hoffered, hset]
    simp only [settle, if_pos hsets, hoffered, hget]
    rfl

theorem assignment?_congr (h : b.Laid) (h' : b'.Laid) (hd : b'.descriptor = b.descriptor) :
    b'.assignment? name c = b.assignment? name c := by
  apply Option.ext
  intro a
  rw [assignment?_eq_some h', assignment?_eq_some h, hd, buildable_congr hd]

theorem assignments_eq (h : b.Laid) (name : String) (calls : List Call) :
    b.assignments name calls = calls.filterMap (b.assignment? name) := by
  induction calls generalizing b with
  | nil => rfl
  | cons c calls ih =>
    have hrest : (b.call c).2.assignment? name = b.assignment? name := by
      funext c'
      exact assignment?_congr h (h.call c) (b.descriptor_call c)
    rw [assignments, ih (h.call c), hrest, List.filterMap_cons]
    cases b.assignment? name c <;> rfl

theorem lastAssignment?_cons (b : Builder) (name : String) (c : Call) (calls : List Call) :
    b.lastAssignment? name (c :: calls) =
      ((b.call c).2.lastAssignment? name calls).or (b.assignment? name c) := by
  rw [lastAssignment?, assignments, List.getLast?_append]
  cases b.assignment? name c <;> rfl

theorem exists_of_lastAssignment? (h : b.Laid) {calls : List Call} {a : Assignment}
    (hlast : b.lastAssignment? name calls = some a) :
    ∃ p slot, b.buildable name = .ok (p, slot) ∧ p.accept? a.offered = .ok a.stored := by
  have hmem := List.mem_of_getLast? hlast
  rw [assignments_eq h, List.mem_filterMap] at hmem
  obtain ⟨c, _, hassigns⟩ := hmem
  exact ((assignment?_eq_some h).mp hassigns).2.2

/-! ### Slots after calls -/

def Assignment.slot (a : Assignment) : BuilderSlot where
  value := a.stored
  isSet := true

theorem getElem?_call (h : b.Laid) (hp : p ∈ b.descriptor.properties) (hslot : p.slot? = some i)
    (c : Call) :
    (b.call c).2.slots[i]? = ((b.assignment? p.name c).map (·.slot)).or b.slots[i]? := by
  have hfind : b.descriptor.find? p.name = some p :=
    (Descriptor.find?_eq_some_iff h.distinct).mpr ⟨hp, rfl⟩
  cases hassigns : b.assignment? p.name c with
  | some a =>
    obtain ⟨hsets, hoffered, q, slot, hbuildable, haccept⟩ := (assignment?_eq_some h).mp hassigns
    obtain ⟨hq, hqslot, _⟩ := buildable_eq_ok.mp hbuildable
    cases hfind.symm.trans hq
    cases hslot.symm.trans hqslot
    rw [call_of_offered hsets hoffered, set_eq_ok.mpr ⟨p, i, a.stored, hbuildable, haccept, rfl⟩]
    exact List.getElem?_set_self (h.slot p hp i hslot).2
  | none =>
    rcases b.call_cases c with ⟨_, hsame⟩ | ⟨name, v, hsets, hoffered, _, hset⟩
    · rw [hsame]
      rfl
    · obtain ⟨q, slot, w, hbuildable, haccept, hafter⟩ := set_eq_ok.mp hset
      obtain ⟨hq, hqslot, _⟩ := buildable_eq_ok.mp hbuildable
      obtain ⟨hmem, hname⟩ := (Descriptor.find?_eq_some_iff h.distinct).mp hq
      have hother : slot ≠ i := by
        rintro rfl
        cases (h.slot q hmem slot hqslot).1.symm.trans (h.slot p hp slot hslot).1
        have hassigned : b.assignment? p.name c = some ⟨v, w⟩ := (assignment?_eq_some h).mpr
          ⟨hname ▸ hsets, hoffered, p, slot, hname ▸ hbuildable, haccept⟩
        rw [hassigned] at hassigns
        cases hassigns
      rw [hafter]
      exact List.getElem?_set_ne hother

/-- After a run, the slot of a property is that of the last assignment to it, if there was one. -/
theorem getElem?_run (h : b.Laid) (hp : p ∈ b.descriptor.properties) (hslot : p.slot? = some i)
    (calls : List Call) :
    (b.run calls).2.slots[i]? = ((b.lastAssignment? p.name calls).map (·.slot)).or b.slots[i]? := by
  induction calls generalizing b with
  | nil => rfl
  | cons c calls ih =>
    have hp' : p ∈ (b.call c).2.descriptor.properties := by
      rw [descriptor_call]
      exact hp
    rw [lastAssignment?_cons, Option.map_or, Option.or_assoc, ← getElem?_call h hp hslot c]
    exact ih (h.call c) hp'

theorem laid_run (h : b.Laid) (calls : List Call) : (b.run calls).2.Laid :=
  run_preserves (fun _ _ _ _ hb hset => hb.set hset) h calls

theorem eq_of_slots (hdescriptor : b.descriptor = b'.descriptor) (hslots : b.slots = b'.slots) :
    b = b' := by
  cases b
  cases b'
  cases hdescriptor
  cases hslots
  rfl

/-- The last value stored for each property decides what a builder is after a run. -/
theorem run_eq_of_lastAssignment? (h : b.Laid) {calls calls' : List Call}
    (hsame : ∀ p ∈ b.descriptor.properties, (b.lastAssignment? p.name calls).map (·.stored) =
      (b.lastAssignment? p.name calls').map (·.stored)) :
    (b.run calls).2 = (b.run calls').2 := by
  apply eq_of_slots
  · rw [descriptor_run, descriptor_run]
  · apply List.ext_getElem?
    intro i
    by_cases hi : i < b.slots.length
    · obtain ⟨p, hp, hslot⟩ := h.property i hi
      have hslots (x : Option Assignment) :
          x.map (·.slot) = (x.map (·.stored)).map fun v => { value := v, isSet := true } := by
        rw [Option.map_map]
        rfl
      rw [getElem?_run h hp hslot, getElem?_run h hp hslot, hslots, hslots, hsame p hp]
    · have hle := Nat.le_of_not_lt hi
      rw [List.getElem?_eq_none (by rw [length_run]; exact hle),
        List.getElem?_eq_none (by rw [length_run]; exact hle)]

/-! ### Rearranged runs -/

theorem assignment?_of_not_sets (h : b.Laid) (hname : ¬ c.Sets name) :
    b.assignment? name c = none := by
  rw [Option.eq_none_iff_forall_ne_some]
  intro a ha
  exact hname ((assignment?_eq_some h).mp ha).1

theorem exists_assignment? (h : b.Laid) (hsets : c.Sets name) (hdone : (b.call c).1 = .done) :
    ∃ a, b.assignment? name c = some a := by
  rcases b.call_cases c with ⟨hnot, _⟩ | ⟨name', v, hsets', hoffered, _, hset⟩
  · exact absurd hdone hnot
  · cases hsets.unique hsets'
    obtain ⟨p, slot, w, hbuildable, haccept, _⟩ := set_eq_ok.mp hset
    exact ⟨⟨v, w⟩, (assignment?_eq_some h).mpr ⟨hsets, hoffered, p, slot, hbuildable, haccept⟩⟩

/-- What is set for one property and what is set for another may change places. -/
theorem assignments_swap (h : b.Laid) {c c' : Call} {name name' : String} (hsets : c.Sets name)
    (hsets' : c'.Sets name') (hne : name ≠ name') (n : String) (calls rest : List Call) :
    b.assignments n (calls ++ c :: c' :: rest) = b.assignments n (calls ++ c' :: c :: rest) := by
  have hone : b.assignment? n c = none ∨ b.assignment? n c' = none := by
    by_cases hn : c.Sets n
    · refine .inr (assignment?_of_not_sets h fun hn' => hne ?_)
      exact (hsets.unique hn).trans (hsets'.unique hn').symm
    · exact .inl (assignment?_of_not_sets h hn)
  simp only [assignments_eq h, List.filterMap_append, List.filterMap_cons]
  rcases hone with hnone | hnone <;> rw [hnone]

/-- What is set for a property is of no account if the property is set again. -/
theorem lastAssignment?_overwritten (h : b.Laid) {c c' : Call} {a : Assignment}
    (hsets : c.Sets name) (hassigns : b.assignment? name c' = some a) (n : String)
    (calls between rest : List Call) :
    b.lastAssignment? n (calls ++ c :: between ++ c' :: rest) =
      b.lastAssignment? n (calls ++ between ++ c' :: rest) := by
  simp only [lastAssignment?, assignments_eq h, List.filterMap_append, List.filterMap_cons]
  by_cases hn : c.Sets n
  · cases hsets.unique hn
    simp only [hassigns, List.getLast?_append, List.getLast?_cons, Option.some_or]
  · rw [assignment?_of_not_sets h hn]

/-- What may be done to a run without a difference to what is built. -/
structure LastWins (b : Builder) : Prop where
  /-- Of two runs that stored the same values last, the same is built. -/
  build : ∀ calls calls', (∀ p ∈ b.descriptor.properties,
      (b.lastAssignment? p.name calls).map (·.stored) =
        (b.lastAssignment? p.name calls').map (·.stored)) →
    (b.run calls).2.build = (b.run calls').2.build
  refused : ∀ calls c e, ((b.run calls).2.call c).1 = .refused e →
    ((b.run calls).2.call c).2 = (b.run calls).2 ∧
      e.kind ∈ ["UnknownProperty", "NotWritable", "TypeMismatch", "ParseError"]
  commute : ∀ (c c' : Call) (name name' : String), c.Sets name → c'.Sets name' → name ≠ name' →
    ∀ calls rest, (b.run (calls ++ c :: c' :: rest)).2 = (b.run (calls ++ c' :: c :: rest)).2
  overwritten : ∀ (c c' : Call) (name : String), c.Sets name → c'.Sets name →
    ∀ calls between rest, ((b.run (calls ++ c :: between)).2.call c').1 = .done →
      (b.run (calls ++ c :: between ++ c' :: rest)).2 = (b.run (calls ++ between ++ c' :: rest)).2

theorem Laid.lastWins (h : b.Laid) : b.LastWins := by
  constructor
  case build =>
    intro calls calls' hsame
    rw [run_eq_of_lastAssignment? h hsame]
  case refused =>
    intro calls c e hrefused
    exact ⟨call_of_refused hrefused, kind_of_refused hrefused⟩
  case commute =>
    intro c c' name name' hsets hsets' hne calls rest
    apply run_eq_of_lastAssignment? h
    intro p _
    rw [lastAssignment?, lastAssignment?, assignments_swap h hsets hsets' hne]
  case overwritten =>
    intro c c' name hsets hsets' calls between rest hdone
    obtain ⟨a, ha⟩ := exists_assignment? (laid_run h _) hsets' hdone
    rw [assignment?_congr h (laid_run h _) (descriptor_run b _)] at ha
    apply run_eq_of_lastAssignment? h
    intro p _
    rw [lastAssignment?_overwritten h hsets ha]

/-- Builders of every descriptor, with whichever converter. -/
theorem builder_lastWins (h : (Descriptor.ofSchema s kind).result = .ok d)
    (converter : ConverterChoice) : { d with converter }.builder.LastWins :=
  (laid_builder h converter).lastWins

/-- In the first run a value is refused, a name is unknown, and the label is set twice; in the second
one both are set once, and the label first. -/
theorem waypoint_lastWins :
    ∃ d bean, (Descriptor.ofSchema Descriptor.waypoint .handle).result = .ok d ∧
      (d.builder.run [
        .set "label" (some (.ofString "north")),
        .set "height" (some (.ofString "high")),
        .setText "height" "12",
        .set "depth" none,
        .set "label" (some (.option .string (some (.ofString "south"))))]).2.build = bean ∧
      (d.builder.run [
        .setText "label" "south",
        .set "height" (some (.ofInt .i32 12))]).2.build = bean ∧
      bean.result = .ok ⟨Descriptor.waypoint.type,
        [some (.ofString "south"), some (.option (.int .i32) (some (.ofInt .i32 12)))]⟩ := by
  refine ⟨_, _, rfl, ?_, rfl, rfl⟩
  apply (@builder_lastWins Descriptor.waypoint .handle _ rfl .shared).build
  intro p hp
  rcases List.mem_cons.mp hp with rfl | hp
  · rfl
  rcases List.mem_cons.mp hp with rfl | hp
  · rfl
  · cases List.mem_singleton.mp hp
    rfl

end Beans.Builder
