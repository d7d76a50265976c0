import Beans.Proofs.ReadTypes
/-!
# Accessors along a chain of schemas

The getter and the setter of a field may be declared by the schema of the field or by one that it extends,
however far away. What is bound is the nearest method of the name, and its role is looked at only after it
was found. So one of the other role, a setter that has the name of a getter, hides those that stand behind
it: on the schemas that are extended, and behind it on the same one. An accessor that is hidden counts as
missing. If none is, the nearest getter and the nearest setter are bound.
-/

set_option autoImplicit false

namespace Beans

/-! ### Nearest methods -/

/-- The first element that passes one test, if it passes another as well. -/
theorem filter_find? {α : Type} (p q : α → Bool) (l : List α) :
    (l.find? p).filter q =
      if (l.find? p).any (!q ·) then none else l.find? fun a => p a && q a := by
  induction l with
  | nil => rfl
  | cons a l ih =>
    by_cases hp : p a = true
    · by_cases hq : q a = true <;> simp [hp, hq]
    · simpa [hp] using ih

def Method.isGetter (m : Method) : Bool :=
  m.returns?.isSome

def Method.isSetter (m : Method) : Bool :=
  m.param?.isSome

namespace Schema

variable {s : Schema} {kind : AccessorKind} {f : Field}

def levels (s : Schema) : List (List Method) :=
  s.methods :: s.ancestors.map (·.methods)

/-- The first method of a role and a name on the nearest schema that declares one. -/
def nearest? (s : Schema) (role : Method → Bool) (name : String) : Option Method :=
  s.levels.findSome? (·.find? fun m => m.name == name && role m)

/-- Whether the first method of a name, on all schemas, has another role. -/
def hides (s : Schema) (role : Method → Bool) (name : String) : Bool :=
  (s.levels.flatten.find? (·.name == name)).any (!role ·)

/-- The nearest method of a role and a name, unless it is hidden. -/
def visible? (s : Schema) (role : Method → Bool) (name : String) : Option Method :=
  if s.hides role name then none else s.nearest? role name

/-- The getter of a field among methods that are looked up by their names. That of a `bool` field is named
by a question if there is one of that name. -/
def getterAmong (find : String → Option Method) (f : Field) : Option Method :=
  if f.type = .bool then (find ("is_" ++ f.name)).or (find ("get_" ++ f.name))
  else find ("get_" ++ f.name)

/-- Asking the nearest method of a name for its role finds what is visible. -/
theorem filter_findMethod? (s : Schema) (role : Method → Bool) (name : String) :
    (s.findMethod? name).filter role = s.visible? role name := by
  unfold visible? hides nearest?
  rw [← List.find?_flatten, ← filter_find?, List.find?_flatten]
  rfl

theorem map_findGetter? (s : Schema) (name : String) :
    (s.findGetter? name).map Prod.fst = s.visible? Method.isGetter name := by
  rw [← filter_findMethod?]
  unfold findGetter?
  cases s.findMethod? name with
  | none => rfl
  | some m => cases h : m.returns? <;> simp [h, Method.isGetter, Option.filter]

theorem map_getterOf? (s : Schema) (f : Field) :
    (s.getterOf? f).map Prod.fst = getterAmong (s.visible? Method.isGetter) f := by
  unfold getterOf? getterAmong
  rw [← map_findGetter?, ← map_findGetter?]
  split
  · cases s.findGetter? ("is_" ++ f.name) <;> rfl
  · rfl

theorem findMethod?_of_visible {role : Method → Bool} {name : String} {m : Method}
    (h : s.visible? role name = some m) : s.findMethod? m.name = some m ∧ role m = true := by
  rw [← filter_findMethod?] at h
  obtain ⟨hfind, hrole⟩ := Option.filter_eq_some_iff.mp h
  exact ⟨findMethod?_name hfind, hrole⟩

theorem visible?_eq_nearest? {role : Method → Bool} {name : String}
    (h : ∀ methods ∈ s.levels, ∀ m ∈ methods, m.name = name → role m = true) :
    s.visible? role name = s.nearest? role name := by
  have hopen : s.hides role name = false := by
    unfold hides
    cases hfirst : s.levels.flatten.find? (·.name == name) with
    | none => rfl
    | some m =>
      obtain ⟨methods, hmethods, hm⟩ := List.mem_flatten.mp (List.mem_of_find?_eq_some hfirst)
      have hname : m.name = name := by simpa using List.find?_some hfirst
      simp [h methods hmethods m hm hname]
  rw [visible?, hopen]
  rfl

theorem setterOf?_eq (s : Schema) (f : Field) :
    s.setterOf? f .accessor = (s.visible? Method.isSetter ("set_" ++ f.name)).bind fun m =>
      m.param?.map fun t => (.setter m.name, t) := by
  rw [← filter_findMethod?]
  change ((s.findMethod? ("set_" ++ f.name)).bind fun m =>
    m.param?.bind fun t => some (WriteMember.setter m.name, t)) = _
  cases s.findMethod? ("set_" ++ f.name) with
  | none => rfl
  | some m => cases h : m.param? <;> simp [h, Method.isSetter, Option.filter]

/-! ### Members of a field -/

theorem visible_of_readMemberOf {read : ReadMember} {type : Ty}
    (h : s.readMemberOf f .accessor = .ok (read, type)) :
    ∃ m t, getterAmong (s.visible? Method.isGetter) f = some m ∧ m.returns? = some t ∧
      type = (if t.isOption then t else f.type) ∧ read.find? s = m.reader? := by
  obtain ⟨m, t, hgetter, rfl, htype⟩ := getter_of_readMemberOf h
  obtain ⟨hfind, -, hreturns⟩ := getterOf?_eq_some hgetter
  have hvisible := s.map_getterOf? f
  rw [hgetter] at hvisible
  refine ⟨m, t, hvisible.symm, hreturns, htype, ?_⟩
  rw [ReadMember.find?, hfind]
  rfl

theorem setter_of_writeMemberOf {m : Method} {write : WriteMember} {t : Ty}
    (hvisible : s.visible? Method.isSetter ("set_" ++ f.name) = some m)
    (h : s.writeMemberOf f .accessor = .ok (write, t)) :
    m.param? = some t ∧ write.find? s = m.writer? := by
  obtain ⟨hfind, hrole⟩ := findMethod?_of_visible hvisible
  obtain ⟨param, hparam⟩ := Option.isSome_iff_exists.mp hrole
  have hsetter : s.setterOf? f .accessor = some (.setter m.name, param) := by
    rw [setterOf?_eq, hvisible]
    simp [hparam]
  rw [writeMemberOf, hsetter] at h
  cases h
  refine ⟨hparam, ?_⟩
  rw [WriteMember.find?, hfind]
  rfl

theorem own_of_writeMemberOf {write : WriteMember} {t : Ty}
    (hvisible : s.visible? Method.isSetter ("set_" ++ f.name) = none)
    (h : s.writeMemberOf f .accessor = .ok (write, t)) :
    f.writer.isSome = true ∧ t = f.type ∧ write.find? s = (s.field? f.name).bind (·.writer) := by
  have hsetter : s.setterOf? f .accessor = none := by
    rw [setterOf?_eq, hvisible]
    rfl
  rw [writeMemberOf, hsetter] at h
  simp only at h
  split at h
  · next hown =>
    cases h
    exact ⟨hown, rfl, rfl⟩
  · cases h

/-! ### Fields without a getter -/

theorem readMemberOf_eq_error {e : BeanError} : s.readMemberOf f .accessor = .error e ↔
    getterAmong (s.visible? Method.isGetter) f = none ∧
      e = .accessorNotFound s.type ("get_" ++ f.name) := by
  rw [← map_getterOf?]
  unfold readMemberOf
  cases s.getterOf? f with
  | none => simp [eq_comm]
  | some found => simp

theorem error_of_bindingOf {e : BeanError} (h : s.bindingOf f .accessor = .error e) :
    s.readMemberOf f .accessor = .error e ∨ e = .accessorNotFound s.type ("set_" ++ f.name) := by
  rcases bind_eq_error.mp h with hread | ⟨read, -, h⟩
  · exact .inl hread
  · right
    cases hmutable : s.isMutable with
    | false =>
      simp only [hmutable] at h
      cases h
    | true =>
      simp only [hmutable] at h
      rcases bind_eq_error.mp h with hwrite | ⟨write, -, h⟩
      · unfold writeMemberOf at hwrite
        split at hwrite
        · cases hwrite
        · split at hwrite
          · cases hwrite
          · cases hwrite
            rfl
      · cases h

/-- A binding names the field itself or its setter, apart from what it reads. -/
theorem name_of_bindingOf {b : Binding} {type slotType : Ty}
    (h : s.bindingOf f .accessor = .ok (b, type, slotType)) :
    b.property = f.name ∧ ∀ w, b.write = some w → w.name = f.name ∨ w.name = "set_" ++ f.name := by
  obtain ⟨read, -, ⟨-, write, hwrite, rfl⟩ | ⟨-, -, rfl⟩⟩ := bindingOf_eq_ok h
  · refine ⟨rfl, ?_⟩
    intro w hw
    cases hw
    rcases writeMemberOf_eq_ok hwrite with ⟨-, rfl⟩ | ⟨m, rfl, -, hname, -⟩
    · exact .inl rfl
    · exact .inr hname
  · exact ⟨rfl, nofun⟩

theorem fieldProperty_refuses (slot : Nat) :
    s.fieldProperty kind slot f .accessor =
        .error (.accessorNotFound s.type ("get_" ++ f.name)) ↔
      getterAmong (s.visible? Method.isGetter) f = none := by
  rw [fieldProperty_eq]
  constructor
  · intro h
    rcases bind_eq_error.mp h with hbinding | ⟨⟨b, type, slotType⟩, hbinding, h⟩
    · rcases error_of_bindingOf hbinding with hread | hsetter
      · exact (readMemberOf_eq_error.mp hread).1
      · cases getter_ne_setter _ _ (BeanError.accessorNotFound.inj hsetter).2
    · -- the getter was found, and what else may be missing has another name
      obtain ⟨hproperty, hwrite⟩ := name_of_bindingOf hbinding
      rcases bind_eq_error.mp h with h | ⟨a, -, h⟩
      · rcases Accessor.name_of_ofBinding? h with hname | ⟨w, hw, hname⟩
        · cases getter_ne_self _ (hname.trans hproperty)
        · rcases hwrite w hw with hsame | hsame
          · cases getter_ne_self _ (hname.trans hsame)
          · cases getter_ne_setter _ _ (hname.trans hsame)
      · cases h
  · intro hnone
    have hread : s.readMemberOf f .accessor = _ := readMemberOf_eq_error.mpr ⟨hnone, rfl⟩
    simp only [bindingOf, hread]
    rfl

theorem addFieldProperties_append (l : PropertyLayout) (first rest : List (Field × FieldStyle)) :
    s.addFieldProperties kind l (first ++ rest) =
      s.addFieldProperties kind l first >>= fun l' => s.addFieldProperties kind l' rest := by
  induction first generalizing l with
  | nil => rfl
  | cons x first ih =>
    obtain ⟨f, style⟩ := x
    simp only [List.cons_append, addFieldProperties, bind_assoc, ih]

end Schema

/-! ### Descriptors -/

namespace Descriptor

variable {s : Schema} {kind : AccessorKind} {d : Descriptor} {f : Field} {m : Method}
  {before after : List (Field × FieldStyle)}

/-- The property of a field calls what the names of its binding lead to. -/
theorem exists_bound (h : (ofSchema s kind).result = .ok d) {style : FieldStyle}
    (hf : (f, style) ∈ s.propertyFields) :
    ∃ p read, d.property f.name = .ok p ∧ s.readMemberOf f style = .ok (read, p.type) ∧
      (kind ≠ .generated → p.ReadsBy (read.find? s)) ∧
      (s.isMutable = true → ∃ write, s.writeMemberOf f style = .ok (write, p.slotType) ∧
        (kind ≠ .generated → p.WritesBy (write.find? s))) := by
  obtain ⟨p, slot, hp, hfield⟩ := exists_fieldProperty h hf
  obtain ⟨b, type, slotType, a, hb, ha, rfl⟩ := Schema.fieldProperty_eq_ok.mp hfield
  obtain ⟨hproperty, hread, hwrite⟩ := Schema.members_of_bindingOf hb
  have hcalls (hkind : kind ≠ .generated) :
      ∃ read write, b.Resolves s read write ∧ a.Agrees (.handle ⟨f.name, read, write⟩) := by
    rw [← hproperty]
    exact Accessor.agrees_of_ofBinding? hkind ha
  refine ⟨_, b.read, hp, hread, fun hkind => ?_, fun hmutable => ?_⟩
  · obtain ⟨read, write, hresolves, hagrees⟩ := hcalls hkind
    exact reads_of_resolves hresolves hagrees
  · obtain ⟨member, hmember, hw⟩ := hwrite hmutable
    refine ⟨member, hw, fun hkind => ?_⟩
    obtain ⟨read, write, hresolves, hagrees⟩ := hcalls hkind
    exact writes_of_resolves hresolves hagrees hmember

theorem ofSchema_of_refused_field {e : BeanError} {l : Schema.PropertyLayout} {style : FieldStyle}
    (hf : s.propertyFields = before ++ (f, style) :: after)
    (hbefore : s.addFieldProperties kind ∅ before = .ok l)
    (h : s.fieldProperty kind l.slotTypes.length f style = .error e) :
    (ofSchema s kind).result = .error e := by
  apply ofSchema_of_refused
  unfold Schema.allProperties
  rw [hf, Schema.addFieldProperties_append, hbefore]
  simp only [bind, Except.bind, Schema.addFieldProperties, h]

/-- The accessors of a field that stands behind some others. Its property is bound to the getter that is
visible, and to the setter that is or to the field itself. Without a getter the schema is refused. -/
structure BindsVisible (s : Schema) (kind : AccessorKind) (before : List (Field × FieldStyle))
    (f : Field) : Prop where
  getter : ∀ d, (ofSchema s kind).result = .ok d → ∃ p m t, d.property f.name = .ok p ∧
    Schema.getterAmong (s.visible? Method.isGetter) f = some m ∧ m.returns? = some t ∧
    p.type = (if t.isOption then t else f.type) ∧ (kind ≠ .generated → p.ReadsBy m.reader?)
  setter : ∀ d m, (ofSchema s kind).result = .ok d → s.isMutable = true →
    s.visible? Method.isSetter ("set_" ++ f.name) = some m →
    ∃ p, d.property f.name = .ok p ∧ m.param? = some p.slotType ∧
      (kind ≠ .generated → p.WritesBy m.writer?)
  ownWriter : ∀ d, (ofSchema s kind).result = .ok d → s.isMutable = true →
    s.visible? Method.isSetter ("set_" ++ f.name) = none →
    f.writer.isSome = true ∧ ∃ p, d.property f.name = .ok p ∧ p.slotType = f.type ∧
      (kind ≠ .generated → p.WritesBy ((s.field? f.name).bind (·.writer)))
  refused : ∀ slot, s.fieldProperty kind slot f .accessor =
      .error (.accessorNotFound s.type ("get_" ++ f.name)) ↔
    Schema.getterAmong (s.visible? Method.isGetter) f = none
  reported : ∀ l, s.addFieldProperties kind ∅ before = .ok l →
    Schema.getterAmong (s.visible? Method.isGetter) f = none →
    (ofSchema s kind).result = .error (.accessorNotFound s.type ("get_" ++ f.name))
  nearestGetter : (∀ methods ∈ s.levels, ∀ m ∈ methods,
      m.name = "get_" ++ f.name ∨ f.type = .bool ∧ m.name = "is_" ++ f.name → m.isGetter = true) →
    Schema.getterAmong (s.visible? Method.isGetter) f =
      Schema.getterAmong (s.nearest? Method.isGetter) f
  nearestSetter : (∀ methods ∈ s.levels, ∀ m ∈ methods,
      m.name = "set_" ++ f.name → m.isSetter = true) →
    s.visible? Method.isSetter ("set_" ++ f.name) = s.nearest? Method.isSetter ("set_" ++ f.name)

theorem ofSchema_bindsVisible (hf : s.propertyFields = before ++ (f, .accessor) :: after) :
    BindsVisible s kind before f := by
  have hmem : (f, .accessor) ∈ s.propertyFields := by simp [hf]
  constructor
  case getter =>
    intro d h
    obtain ⟨p, read, hp, hread, hreads, -⟩ := exists_bound h hmem
    obtain ⟨m, t, hgetter, hreturns, htype, hfind⟩ := Schema.visible_of_readMemberOf hread
    rw [hfind] at hreads
    exact ⟨p, m, t, hp, hgetter, hreturns, htype, hreads⟩
  case setter =>
    intro d m h hmutable hvisible
    obtain ⟨p, -, hp, -, -, hwritten⟩ := exists_bound h hmem
    obtain ⟨write, hwrite, hwrites⟩ := hwritten hmutable
    obtain ⟨hparam, hfind⟩ := Schema.setter_of_writeMemberOf hvisible hwrite
    rw [hfind] at hwrites
    exact ⟨p, hp, hparam, hwrites⟩
  case ownWriter =>
    intro d h hmutable hvisible
    obtain ⟨p, -, hp, -, -, hwritten⟩ := exists_bound h hmem
    obtain ⟨write, hwrite, hwrites⟩ := hwritten hmutable
    obtain ⟨hown, hslot, hfind⟩ := Schema.own_of_writeMemberOf hvisible hwrite
    rw [hfind] at hwrites
    exact ⟨hown, p, hp, hslot, hwrites⟩
  case refused => exact Schema.fieldProperty_refuses
  case reported =>
    intro l hbefore hnone
    exact ofSchema_of_refused_field hf hbefore ((Schema.fieldProperty_refuses _).mpr hnone)
  case nearestGetter =>
    intro h
    have hgetter := Schema.visible?_eq_nearest? fun l hl m hm hname => h l hl m hm (.inl hname)
    unfold Schema.getterAmong
    rw [hgetter]
    split
    · next hbool =>
      have hquestion := Schema.visible?_eq_nearest? fun l hl m hm hname =>
        h l hl m hm (.inr ⟨hbool, hname⟩)
      rw [hquestion]
    · rfl
  case nearestSetter => exact Schema.visible?_eq_nearest?

/-- The getter of the label is the one of a schema that is extended. -/
theorem waypoint_bindsVisible :
    ∃ f after m, waypoint.propertyFields = [] ++ (f, .accessor) :: after ∧
      BindsVisible waypoint .reflective [] f ∧ waypoint.methods.all (·.name != m.name) = true ∧
      Schema.getterAmong (waypoint.nearest? Method.isGetter) f = some m ∧ m.name = "get_label" :=
  ⟨_, _, _, rfl, ofSchema_bindsVisible rfl, by decide, rfl, rfl⟩

/-- Extends a schema that has a getter of the width. Its own method of that name is a setter. -/
def fence : Schema :=
  let type : BeanType := ⟨"atlas", "Fence", .row⟩
  let place : BeanType := ⟨"atlas", "Place", .row⟩
  { type
    ancestors := [⟨place, [{
      name := "get_width"
      body := .getter (.int .u32) (ReadRule.reader place (.cell 0 true)) }]⟩]
    fields := [{ name := "width", type := .int .u32, style := some .accessor }]
    methods := [{
      name := "get_width"
      body := .setter (.int .u32) (WriteRule.writer type (.cell 0 false .any)) }]
    constructors := [{
      params := [.int .u32]
      invoke := BuildRule.invoke (.row type [.required (.int .u32) 0] []) }] }

/-- Extends a schema that has a setter of the width. Its own method of that name is a getter, and the width
has a writer of its own, which refuses. -/
def gate : Schema :=
  let type : BeanType := ⟨"atlas", "Gate", .row⟩
  let place : BeanType := ⟨"atlas", "Place", .row⟩
  { type
    isMutable := true
    ancestors := [⟨place, [{
      name := "set_width"
      body := .setter (.int .u32) (WriteRule.writer place (.cell 0 true .any)) }]⟩]
    fields := [{
      name := "width", type := .int .u32, style := some .accessor
      writer := some (WriteRule.writer type (.refuse (.other "locked"))) }]
    methods := [
      { name := "get_width", body := .getter (.int .u32) (ReadRule.reader type (.cell 0 false)) },
      { name := "set_width", body := .getter (.int .u32) (ReadRule.reader type (.cell 0 false)) }]
    constructors := [{
      params := []
      invoke := BuildRule.invoke (.row type [] [some (.ofInt .u32 0)]) }] }

/-- One schema is refused for the getter that is declared. The other is described, but its width is written
by the writer that refuses and not by the setter that is declared. -/
theorem fence_hides :
    (∃ f m, fence.propertyFields = [(f, .accessor)] ∧ "get_" ++ f.name = "get_width" ∧
      f.type ≠ .bool ∧ fence.nearest? Method.isGetter "get_width" = some m ∧
      Schema.getterAmong (fence.nearest? Method.isGetter) f = some m ∧
      (ofSchema fence .handle).result = .error (.accessorNotFound fence.type "get_width")) ∧
    ∃ f m d p, gate.propertyFields = [(f, .accessor)] ∧ "set_" ++ f.name = "set_width" ∧
      gate.isMutable = true ∧ gate.nearest? Method.isSetter "set_width" = some m ∧
      (ofSchema gate .handle).result = .ok d ∧ d.property f.name = .ok p ∧
      p.WritesBy f.writer ∧ ¬ p.WritesBy m.writer? := by
  constructor
  · exact ⟨_, _, rfl, rfl, by decide, rfl, rfl, rfl⟩
  · refine ⟨_, _, _, _, rfl, rfl, rfl, rfl, rfl, rfl, ⟨_, rfl, rfl⟩, ?_⟩
    rintro ⟨w, hw, hwrite⟩
    cases hw
    let b : Bean := ⟨gate.type, [none]⟩
    cases congrFun (congrFun hwrite (some (.ofInt .u32 9))) b

end Descriptor

end Beans
