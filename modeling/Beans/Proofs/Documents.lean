import Beans.Proofs.Histories
/-!
# What values are serialized as

A document is a value as a serializer is told of it: a tree, with the events that go through it. Which
document a value has depends on what the beans in it are described as. A bean has one if it can be described
and all its properties read, and what it holds has one again; so a value has a document if and only if this
never fails on the way down and the way down ends.
-/

set_option autoImplicit false

namespace Beans

inductive Document where
  | scalar (s : ScalarValue)
  | absent
  | present (content : Document)
  | list (items : List Document)
  | map (entries : List (Document × Document))

namespace Document

instance : Inhabited Document := ⟨.absent⟩

mutual

/-- The events that tell of a document. Lists and maps announce as many parts as follow. -/
def events : Document → List SerialEvent
  | scalar s => [.scalar s]
  | absent => [.none]
  | present content => .some :: content.events
  | list items => .listStart items.length :: (itemEvents items ++ [.listEnd])
  | map entries => .mapStart entries.length :: (entryEvents entries ++ [.mapEnd])
termination_by structural x => x

def itemEvents : List Document → List SerialEvent
  | [] => []
  | d :: rest => d.events ++ itemEvents rest
termination_by structural x => x

def entryEvents : List (Document × Document) → List SerialEvent
  | [] => []
  | (k, d) :: rest => k.events ++ (d.events ++ entryEvents rest)
termination_by structural x => x

end

end Document

def Value.isLeaf : Value → Bool
  | leaf _ _ => true
  | _ => false

namespace Descriptor

def held (D : Descriptor) (b : Bean) : List (String × Value) :=
  D.properties.filterMap fun p => (p.get b).toOption.join.map (p.name, ·)

end Descriptor

namespace Registry

variable {r : Registry} {t : RegistryTable} {v w : Value} {d : Document} {n m : Nat}

/-- The document that a value has, with at most so many beans one in another. -/
inductive Writes (r : Registry) (t : RegistryTable) : Nat → Value → Document → Prop where
  | scalar {n : Nat} (s : ScalarValue) : r.Writes t n (.scalar s) (.scalar s.portable)
  | absent {n : Nat} (item : Ty) : r.Writes t n (.option item none) .absent
  | present {n : Nat} {v : Value} {d : Document} (item : Ty) (h : r.Writes t n v d) :
    r.Writes t n (.option item (some v)) (.present d)
  | list {n : Nat} {items : List Value} (item : Ty) (document : Value → Document)
    (h : ∀ v ∈ items, r.Writes t n v (document v)) :
    r.Writes t n (.list item items) (.list (items.map document))
  | set {n : Nat} {items : List Value} (storage : Storage) (item : Ty) (document : Value → Document)
    (h : ∀ v ∈ items, r.Writes t n v (document v)) :
    r.Writes t n (.set storage item items) (.list (items.map document))
  | map {n : Nat} {entries : List (Value × Value)} (storage : Storage) (key mapped : Ty)
    (document : Value → Document) (hkey : ∀ e ∈ entries, r.Writes t n e.1 (document e.1))
    (hmapped : ∀ e ∈ entries, r.Writes t n e.2 (document e.2)) :
    r.Writes t n (.map storage key mapped entries)
      (.map (entries.map fun e => (document e.1, document e.2)))
  | bean {n : Nat} {b : BeanType} {cells : List (Option Value)} {D : Descriptor}
    (hD : (r.lookup b).outcome t = .ok D) (hread : D.Reads ⟨b, cells⟩) (document : Value → Document)
    (h : ∀ p ∈ D.held ⟨b, cells⟩, r.Writes t n p.2 (document p.2)) :
    r.Writes t (n + 1) (.bean b cells)
      (.map ((D.held ⟨b, cells⟩).map fun p => (.scalar (.string p.1), document p.2)))

/-- Deeper nesting may be allowed than there is. -/
theorem Writes.mono (h : r.Writes t n v d) (hle : n ≤ m) : r.Writes t m v d := by
  induction h generalizing m with
  | scalar s => exact .scalar s
  | absent item => exact .absent item
  | present item _ ih => exact .present item (ih hle)
  | list item document _ ih => exact .list item document fun v hv => ih v hv hle
  | set storage item document _ ih => exact .set storage item document fun v hv => ih v hv hle
  | map storage key mapped document _ _ ihkey ihmapped =>
    apply Writes.map storage key mapped document
    · exact fun e he => ihkey e he hle
    · exact fun e he => ihmapped e he hle
  | bean hD hread document _ ih =>
    obtain ⟨m, rfl⟩ := Nat.exists_eq_succ_of_ne_zero (Nat.ne_zero_of_lt hle)
    exact .bean hD hread document fun p hp => ih p hp (Nat.le_of_succ_le_succ hle)

/-! ### Ways down -/

/-- From a value to what is written inside of it: the parts of a container, and what a bean holds. -/
inductive Leads (r : Registry) (t : RegistryTable) : Value → Value → Prop where
  | part {v w : Value} (hv : v.bean? = none) (hw : w ∈ v.parts) : r.Leads t v w
  | property {b : Bean} {D : Descriptor} {p : String × Value}
    (hD : (r.lookup b.type).outcome t = .ok D) (hp : p ∈ D.held b) : r.Leads t b.toValue p.2

/-- The value is none of a leaf type, and if it is a bean it can be described and read. -/
structure Fits (r : Registry) (t : RegistryTable) (v : Value) : Prop where
  not_leaf : v.isLeaf = false
  bean : ∀ b, v.bean? = some b → ∃ D, (r.lookup b.type).outcome t = .ok D ∧ D.Reads b

/-- All ways down from the value end, and what they lead to fits. -/
inductive Serializable (r : Registry) (t : RegistryTable) : Value → Prop where
  | intro {v : Value} (here : r.Fits t v) (next : ∀ w, r.Leads t v w → r.Serializable t w) :
    r.Serializable t v

theorem exists_bound {values : List Value} (h : ∀ v ∈ values, ∃ n d, r.Writes t n v d) :
    ∃ n, ∀ v ∈ values, ∃ d, r.Writes t n v d := by
  induction values with
  | nil => exact ⟨0, nofun⟩
  | cons v rest ih =>
    obtain ⟨hv, hrest⟩ := List.forall_mem_cons.mp h
    obtain ⟨n, d, hd⟩ := hv
    obtain ⟨m, hm⟩ := ih hrest
    refine ⟨max n m, List.forall_mem_cons.mpr ⟨⟨d, hd.mono (Nat.le_max_left n m)⟩, ?_⟩⟩
    intro w hw
    obtain ⟨e, he⟩ := hm w hw
    exact ⟨e, he.mono (Nat.le_max_right n m)⟩

theorem leads_of_not_bean (hv : v.bean? = none) : r.Leads t v w ↔ w ∈ v.parts := by
  constructor
  · intro h
    cases h with
    | part _ hw => exact hw
    | property hD hp => cases hv
  · exact .part hv

theorem leads_of_bean {b : Bean} : r.Leads t b.toValue w ↔
    ∃ D p, (r.lookup b.type).outcome t = .ok D ∧ p ∈ D.held b ∧ p.2 = w := by
  constructor
  · intro h
    generalize hb : b.toValue = v at h
    cases h with
    | part hv hw =>
      subst hb
      cases hv
    | @property b' D p hD hp =>
      obtain rfl : b = b' := Option.some.inj (congrArg Value.bean? hb)
      exact ⟨D, p, hD, hp, rfl⟩
  · rintro ⟨D, p, hD, hp, rfl⟩
    exact .property hD hp

theorem exists_writes_of_parts (hv : v.bean? = none) (hleaf : v.isLeaf = false)
    (hparts : ∀ w ∈ v.parts, ∃ d, r.Writes t n w d) : ∃ d, r.Writes t n v d := by
  choose! document hdocument using hparts
  cases v with
  | scalar s => exact ⟨_, .scalar s⟩
  | leaf l content => cases hleaf
  | option item content =>
    cases content with
    | none => exact ⟨_, .absent item⟩
    | some v => exact ⟨_, .present item (hdocument v (Value.mem_parts_option.mpr rfl))⟩
  | list item items => exact ⟨_, .list item document hdocument⟩
  | set storage item items => exact ⟨_, .set storage item document hdocument⟩
  | map storage key mapped entries =>
    refine ⟨_, .map storage key mapped document ?_ ?_⟩
    · exact fun e he => hdocument e.1 (Value.key_mem_parts he)
    · exact fun e he => hdocument e.2 (Value.mapped_mem_parts he)
  | bean b cells => cases hv

theorem exists_writes_of_held {b : Bean} {D : Descriptor} (hD : (r.lookup b.type).outcome t = .ok D)
    (hread : D.Reads b) (hheld : ∀ w ∈ (D.held b).map Prod.snd, ∃ d, r.Writes t n w d) :
    ∃ d, r.Writes t (n + 1) b.toValue d := by
  choose! document hdocument using hheld
  exact ⟨_, .bean hD hread document fun p hp => hdocument p.2 (List.mem_map_of_mem hp)⟩

theorem Serializable.exists_writes (h : r.Serializable t v) : ∃ n d, r.Writes t n v d := by
  induction h with
  | @intro v here _ ih =>
    cases v with
    | bean b cells =>
      obtain ⟨D, hD, hread⟩ := here.bean ⟨b, cells⟩ rfl
      have hheld : ∃ n, ∀ w ∈ (D.held ⟨b, cells⟩).map Prod.snd, ∃ d, r.Writes t n w d := by
        apply exists_bound
        intro w hw
        obtain ⟨p, hp, rfl⟩ := List.mem_map.mp hw
        exact ih p.2 (leads_of_bean.mpr ⟨D, p, hD, hp, rfl⟩)
      obtain ⟨n, hn⟩ := hheld
      exact ⟨n + 1, exists_writes_of_held hD hread hn⟩
    | _ =>
      obtain ⟨n, hn⟩ := exists_bound fun w hw => ih w (.part rfl hw)
      exact ⟨n, exists_writes_of_parts rfl here.not_leaf hn⟩

theorem serializable_of_parts (hv : v.bean? = none) (hleaf : v.isLeaf = false)
    (hparts : ∀ w ∈ v.parts, r.Serializable t w) : r.Serializable t v := by
  refine .intro ⟨hleaf, fun b hb => ?_⟩ fun w hw => hparts w ((leads_of_not_bean hv).mp hw)
  cases hv.symm.trans hb

theorem Writes.serializable (h : r.Writes t n v d) : r.Serializable t v := by
  induction h with
  | scalar s => exact serializable_of_parts rfl rfl nofun
  | absent item => exact serializable_of_parts rfl rfl nofun
  | present item _ ih =>
    refine serializable_of_parts rfl rfl fun w hw => ?_
    cases Value.mem_parts_option.mp hw
    exact ih
  | list item document _ ih => exact serializable_of_parts rfl rfl ih
  | set storage item document _ ih => exact serializable_of_parts rfl rfl ih
  | map storage key mapped document _ _ ihkey ihmapped =>
    refine serializable_of_parts rfl rfl fun w hw => ?_
    obtain ⟨e, he, rfl | rfl⟩ := Value.mem_parts_map.mp hw
    · exact ihkey e he
    · exact ihmapped e he
  | @bean n b cells D hD hread document _ ih =>
    have hfits : r.Fits t (.bean b cells) := by
      refine ⟨rfl, ?_⟩
      rintro _ ⟨⟩
      exact ⟨D, hD, hread⟩
    refine .intro hfits fun w hw => ?_
    obtain ⟨D', p, hD', hp, rfl⟩ := leads_of_bean (b := ⟨b, cells⟩) |>.mp hw
    cases hD.symm.trans hD'
    exact ih p hp

theorem serializable_iff_exists_writes : r.Serializable t v ↔ ∃ n d, r.Writes t n v d :=
  ⟨Serializable.exists_writes, fun ⟨_, _, h⟩ => h.serializable⟩

end Registry

end Beans
