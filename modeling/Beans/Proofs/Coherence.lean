import Beans.Proofs.Indistinguishable
/-!
# Coherent schemas

In a coherent schema each property is declared by one generated entry, and its field, its getter and its
setter do what the entry does. Such a schema has the same descriptors under all strategies. Names may be
taken twice: then no strategy has a descriptor, and where all of them have one, they find the members of
one entry.
-/

set_option autoImplicit false

namespace Beans

structure Field.Matches (f : Field) (e : GeneratedAccess) : Prop where
  name : f.name = e.name
  isReadable : f.reader.isSome = true
  reader : f.style ≠ some .accessor → f.reader = some e.read
  writer : f.writer = e.write

structure Method.Reads (m : Method) (e : GeneratedAccess) : Prop where
  name : m.name = "get_" ++ e.name ∨ m.name = "is_" ++ e.name
  reader : m.reader? = some e.read

structure Method.Writes (m : Method) (e : GeneratedAccess) : Prop where
  name : m.name = "set_" ++ e.name
  isWriter : m.writer?.isSome = true
  writer : m.writer? = e.write

/-- All members do what the generated entries of their properties do. -/
structure Schema.Coherent (s : Schema) : Prop where
  ancestors : s.ancestors = []
  own : s.ownNames = s.fields.map (·.name)
  names : s.generated.map (·.name) = s.ownNames ++ s.derivedNames
  field : ∀ f ∈ s.fields, ∃ e ∈ s.generated, f.Matches e
  method : ∀ m ∈ s.methods, ∃ e ∈ s.generated, m.Reads e ∨ m.Writes e
  derived : ∀ m ∈ s.methods, ∀ name, m.derived = some name →
    ∃ e ∈ s.generated, e.name = name ∧ e.write = none ∧ m.Reads e
  isWritable : ∀ f ∈ s.fields, f.writer.isSome = s.isMutable
  /-- Also if an entry of a derived property takes the same name. -/
  firstWrites : ∀ f ∈ s.fields, ∀ e, s.generated? f.name = some e → e.write.isSome = s.isMutable

/-! ### Methods by their names -/

namespace Method

variable {m : Method} {e : GeneratedAccess} {name : String}

theorem reader?_of_isGetter (h : m.returns?.isSome = true) : m.reader?.isSome = true := by
  unfold returns? at h
  unfold reader?
  cases hm : m.body <;> simp [hm] at h ⊢

theorem writer?_of_isSetter (h : m.param?.isSome = true) : m.writer?.isSome = true := by
  unfold param? at h
  unfold writer?
  cases hm : m.body <;> simp [hm] at h ⊢

/-- A method with the name of a getter reads, and what it reads is named by the rest of the name. -/
theorem reads_of_name (h : m.Reads e ∨ m.Writes e)
    (hname : m.name = "get_" ++ name ∨ m.name = "is_" ++ name) : m.Reads e ∧ e.name = name := by
  rcases h with h | h
  · refine ⟨h, ?_⟩
    rcases h.name with he | he <;> rcases hname with hn | hn <;> rw [he] at hn
    · exact (String.append_right_inj _).mp hn
    · exact absurd hn (getter_ne_question _ _)
    · exact absurd hn.symm (getter_ne_question _ _)
    · exact (String.append_right_inj _).mp hn
  · have he := h.name
    rcases hname with hn | hn <;> rw [hn] at he
    · exact absurd he (getter_ne_setter _ _)
    · exact absurd he (question_ne_setter _ _)

theorem writes_of_name (h : m.Reads e ∨ m.Writes e) (hname : m.name = "set_" ++ name) :
    m.Writes e ∧ e.name = name := by
  rcases h with h | h
  · rcases h.name with he | he <;> rw [hname] at he
    · exact absurd he.symm (getter_ne_setter _ _)
    · exact absurd he.symm (question_ne_setter _ _)
  · refine ⟨h, ?_⟩
    have he := h.name
    rw [hname] at he
    exact ((String.append_right_inj _).mp he).symm

end Method

/-! ### What bindings find -/

namespace Schema.Coherent

variable {s : Schema} {f : Field} {style : FieldStyle} {m : Method} {e : GeneratedAccess}
  {read : ReadMember} {write : WriteMember} {b : Binding} {t type slotType : Ty} {name : String}

theorem exists_field (h : s.Coherent) (hf : f ∈ s.fields) :
    ∃ g ∈ s.fields, ∃ e ∈ s.generated, s.field? f.name = some g ∧ g.Matches e := by
  obtain ⟨g, hg, hfind, _⟩ := exists_find?_of_mem Field.name hf
  obtain ⟨e, he, hmatches⟩ := h.field g hg
  exact ⟨g, hg, e, he, hfind, hmatches⟩

theorem exists_method (h : s.Coherent) (hm : m ∈ s.methods) :
    ∃ m' ∈ s.methods, s.findMethod? m.name = some m' ∧ m'.name = m.name := by
  obtain ⟨m', hm', hfind, hname⟩ := exists_find?_of_mem Method.name hm
  refine ⟨m', hm', ?_, hname⟩
  simp only [findMethod?, h.ancestors, List.map_nil, List.findSome?_cons, hfind]

theorem isSome_read (h : s.Coherent) (hf : f ∈ s.fields)
    (hread : s.readMemberOf f style = .ok (read, t)) : (read.find? s).isSome = true := by
  rcases readMemberOf_eq_ok hread with ⟨_, rfl⟩ | ⟨m, rfl, hfind, _, hgetter⟩
  · obtain ⟨g, _, e, _, hfind, hmatches⟩ := h.exists_field hf
    simp only [ReadMember.find?, hfind, Option.bind_some]
    exact hmatches.isReadable
  · simp only [ReadMember.find?, hfind, Option.bind_some]
    exact Method.reader?_of_isGetter hgetter

theorem isSome_write (h : s.Coherent) (hf : f ∈ s.fields) (hs : s.isMutable = true)
    (hwrite : s.writeMemberOf f style = .ok (write, t)) : (write.find? s).isSome = true := by
  rcases writeMemberOf_eq_ok hwrite with ⟨_, rfl⟩ | ⟨m, rfl, hfind, _, hsetter⟩
  · obtain ⟨g, hg, e, _, hfind, _⟩ := h.exists_field hf
    simp only [WriteMember.find?, hfind, Option.bind_some]
    rw [h.isWritable g hg, hs]
  · simp only [WriteMember.find?, hfind, Option.bind_some]
    exact Method.writer?_of_isSetter hsetter

/-- No binding of a field is refused, whichever names are taken twice. -/
theorem reachable_field (h : s.Coherent) (hf : f ∈ s.fields)
    (hb : s.bindingOf f style = .ok (b, type, slotType)) : b.Reachable s := by
  obtain ⟨e, he, hmatches⟩ := h.field f hf
  obtain ⟨first, _, hfirst, _⟩ := exists_find?_of_mem GeneratedAccess.name he
  rw [← hmatches.name] at hfirst
  have hwrites : first.write.isSome = s.isMutable := h.firstWrites f hf first hfirst
  obtain ⟨read, hread, ⟨hs, write, hwrite, rfl⟩ | ⟨_, _, rfl⟩⟩ := bindingOf_eq_ok hb
  · refine ⟨h.isSome_read hf hread, ?_, first, hfirst, fun _ => hwrites.trans hs⟩
    intro w hw
    cases hw
    exact h.isSome_write hf hs hwrite
  · exact ⟨h.isSome_read hf hread, nofun, first, hfirst, nofun⟩

theorem reachable_derived (h : s.Coherent) (hm : m ∈ s.methods) (hname : m.derived = some name) :
    (Binding.mk name (.getter m.name) none).Reachable s := by
  obtain ⟨e, he, rfl, _, hreads⟩ := h.derived m hm name hname
  obtain ⟨first, _, hfirst, _⟩ := exists_find?_of_mem GeneratedAccess.name he
  refine ⟨?_, nofun, first, hfirst, nofun⟩
  obtain ⟨m', hm', hfind, hname'⟩ := h.exists_method hm
  obtain ⟨e', _, hrole⟩ := h.method m' hm'
  have hreads' := (Method.reads_of_name hrole (hname' ▸ hreads.name)).1
  simp only [ReadMember.find?, hfind, Option.bind_some, hreads'.reader, Option.isSome_some]

/-! ### Distinct names -/

theorem eq_of_name (h : s.Coherent) (hdistinct : (s.ownNames ++ s.derivedNames).Nodup)
    {e' : GeneratedAccess} (he : e ∈ s.generated) (he' : e' ∈ s.generated)
    (hname : e.name = e'.name) : e = e' :=
  eq_of_distinct (h.names.symm ▸ hdistinct) he he' hname

theorem find?_read (h : s.Coherent) (hdistinct : (s.ownNames ++ s.derivedNames).Nodup)
    (hf : f ∈ s.fields) (hstyle : f.style = some style) (he : e ∈ s.generated)
    (hmatches : f.Matches e) (hread : s.readMemberOf f style = .ok (read, t)) :
    read.find? s = some e.read := by
  rcases readMemberOf_eq_ok hread with ⟨hne, rfl⟩ | ⟨m, rfl, hfind, hname, _⟩
  · have hfields : (s.fields.map (·.name)).Nodup := h.own ▸ (List.nodup_append.mp hdistinct).1
    have hfind : s.field? f.name = some f := find?_eq_some_of_distinct hfields hf
    simp only [ReadMember.find?, hfind, Option.bind_some]
    exact hmatches.reader fun heq => hne (Option.some.inj (hstyle.symm.trans heq))
  · obtain ⟨e', he', hrole⟩ := h.method m (mem_of_findMethod? hfind h.ancestors)
    obtain ⟨hreads, hname'⟩ := Method.reads_of_name hrole hname
    have heq : e' = e := h.eq_of_name hdistinct he' he (hname'.trans hmatches.name)
    simp only [ReadMember.find?, hfind, Option.bind_some, hreads.reader, heq]

theorem find?_write (h : s.Coherent) (hdistinct : (s.ownNames ++ s.derivedNames).Nodup)
    (hf : f ∈ s.fields) (he : e ∈ s.generated) (hmatches : f.Matches e)
    (hwrite : s.writeMemberOf f style = .ok (write, t)) : write.find? s = e.write := by
  rcases writeMemberOf_eq_ok hwrite with ⟨_, rfl⟩ | ⟨m, rfl, hfind, hname, _⟩
  · obtain ⟨g, _, e', he', hfind, hmatches'⟩ := h.exists_field hf
    have hname' : g.name = f.name := by simpa using List.find?_some hfind
    have heq : e' = e := by
      apply h.eq_of_name hdistinct he' he
      rw [← hmatches'.name, hname', hmatches.name]
    simp only [WriteMember.find?, hfind, Option.bind_some, hmatches'.writer, heq]
  · obtain ⟨e', he', hrole⟩ := h.method m (mem_of_findMethod? hfind h.ancestors)
    obtain ⟨hwrites, hname'⟩ := Method.writes_of_name hrole hname
    have heq : e' = e := h.eq_of_name hdistinct he' he (hname'.trans hmatches.name)
    simp only [WriteMember.find?, hfind, Option.bind_some, hwrites.writer, heq]

/-- The members of a field are those of its entry. -/
theorem resolves_field (h : s.Coherent) (hdistinct : (s.ownNames ++ s.derivedNames).Nodup)
    (hf : f ∈ s.fields) (hstyle : f.style = some style)
    (hb : s.bindingOf f style = .ok (b, type, slotType)) :
    ∃ e, s.generated? b.property = some e ∧ e.name = b.property ∧ b.Resolves s e.read e.write := by
  obtain ⟨e, he, hmatches⟩ := h.field f hf
  have hfind : s.generated? f.name = some e := by
    rw [hmatches.name]
    exact find?_eq_some_of_distinct (h.names.symm ▸ hdistinct) he
  have hwriter : e.write.isSome = s.isMutable := hmatches.writer ▸ h.isWritable f hf
  obtain ⟨read, hread, ⟨hs, write, hwrite, rfl⟩ | ⟨hs, _, rfl⟩⟩ := bindingOf_eq_ok hb
  · refine ⟨e, hfind, hmatches.name.symm, ?_, ?_⟩
    · exact h.find?_read hdistinct hf hstyle he hmatches hread
    · rw [hs] at hwriter
      obtain ⟨w, hw⟩ := Option.isSome_iff_exists.mp hwriter
      rw [Option.map_some, h.find?_write hdistinct hf he hmatches hwrite, hw]
      rfl
  · refine ⟨e, hfind, hmatches.name.symm, ?_, ?_⟩
    · exact h.find?_read hdistinct hf hstyle he hmatches hread
    · rw [hs, Option.isSome_eq_false_iff, Option.isNone_iff_eq_none] at hwriter
      rw [hwriter]
      rfl

theorem resolves_derived (h : s.Coherent) (hdistinct : (s.ownNames ++ s.derivedNames).Nodup)
    (hm : m ∈ s.methods) (hname : m.derived = some name) :
    ∃ e, s.generated? name = some e ∧ e.name = name ∧
      (Binding.mk name (.getter m.name) none).Resolves s e.read e.write := by
  obtain ⟨e, he, rfl, hwrite, hreads⟩ := h.derived m hm name hname
  obtain ⟨m', hm', hfind, hname'⟩ := h.exists_method hm
  obtain ⟨e', he', hrole⟩ := h.method m' hm'
  obtain ⟨hreads', hentry⟩ := Method.reads_of_name hrole (hname' ▸ hreads.name)
  have heq : e' = e := h.eq_of_name hdistinct he' he hentry
  refine ⟨e, find?_eq_some_of_distinct (h.names.symm ▸ hdistinct) he, rfl, ?_, ?_⟩
  · simp only [ReadMember.find?, hfind, Option.bind_some, hreads'.reader, heq]
  · rw [hwrite]
    rfl

/-! ### All strategies -/

/-- The strategies come to the same properties, or refuse them for the same reason. -/
theorem allProperties_sameOutcome (h : s.Coherent) (kind kind' : AccessorKind) :
    SameOutcome (PropertyLayout.AlikeBy Accessor.Agrees) (s.allProperties kind)
      (s.allProperties kind') := by
  have hreachable : SameOutcome (PropertyLayout.AlikeBy fun _ _ => True)
      (s.allProperties kind) (s.allProperties kind') := by
    apply Schema.allProperties_sameOutcome
    · rintro ⟨f, style⟩ hx b type slotType hb
      exact (h.reachable_field (mem_propertyFields hx).1 hb).sameOutcome kind kind'
    · rintro ⟨m, name, t⟩ hx
      obtain ⟨hm, hname, -⟩ := mem_derivedGetters hx
      exact (h.reachable_derived hm hname).sameOutcome kind kind'
  cases hproperties : s.allProperties kind with
  | error e =>
    rw [hreachable.error_right hproperties]
    exact .error e
  | ok l =>
    have hdistinct : (s.ownNames ++ s.derivedNames).Nodup := by
      rw [← names_of_allProperties hproperties]
      obtain ⟨_, _, -, -, -, hnodup, -⟩ := allProperties_eq_ok hproperties
      exact hnodup
    rw [← hproperties]
    apply Schema.allProperties_sameOutcome
    · rintro ⟨f, style⟩ hx b type slotType hb
      obtain ⟨hf, hstyle⟩ := mem_propertyFields hx
      obtain ⟨e, he, hname, hresolves⟩ := h.resolves_field hdistinct hf hstyle hb
      exact hresolves.sameOutcome (by rw [he, ← hname]) kind kind'
    · rintro ⟨m, name, t⟩ hx
      obtain ⟨hm, hname, -⟩ := mem_derivedGetters hx
      obtain ⟨e, he, rfl, hresolves⟩ := h.resolves_derived hdistinct hm hname
      exact hresolves.sameOutcome he kind kind'

theorem ofSchema_sameOutcome (h : s.Coherent) (kind kind' : AccessorKind) :
    SameOutcome Descriptor.Alike (Descriptor.ofSchema s kind).result
      (Descriptor.ofSchema s kind').result :=
  Descriptor.ofSchema_sameOutcome (h.allProperties_sameOutcome kind kind')

end Schema.Coherent

end Beans
