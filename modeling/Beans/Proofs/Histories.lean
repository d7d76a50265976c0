import Beans.Operations.Copy
import Beans.Operations.Equality
import Beans.Operations.Query
import Beans.Proofs.Handles
import Beans.Proofs.Parts
import Beans.Proofs.Routes
import Beans.Proofs.Traits
import Beans.Serialization.Basic
/-!
# What operations do to registries

Every operation on beans reaches the table of its registry through look-ups only. So what each look-up
keeps, each operation keeps. Where nothing is registered, and all handles have the same overrides, the
entries are what the catalog alone makes of the types: then no operation can tell a table that has been in
use from a fresh one.
-/

set_option autoImplicit false

namespace Beans

namespace Registry

/-- The computation reaches the table through look-ups only. -/
inductive ThroughLookups (r : Registry) : {α : Type} → RegistryM α → Prop where
  | logged {α : Type} (y : Logged α) : r.ThroughLookups (liftM y : RegistryM α)
  | lookup (type : BeanType) : r.ThroughLookups (r.lookup type).run
  | bind {α β : Type} {x : RegistryM α} {f : α → RegistryM β} (hx : r.ThroughLookups x)
    (hf : ∀ a, r.ThroughLookups (f a)) : r.ThroughLookups (x >>= f)

namespace ThroughLookups

variable {r : Registry} {α β ε σ : Type}

theorem pure (a : α) : r.ThroughLookups (Pure.pure a : RegistryM α) :=
  .logged (Pure.pure a)

theorem lift {x : RegistryM α} (hx : r.ThroughLookups x) :
    r.ThroughLookups (ExceptT.lift x : ExceptT ε RegistryM α).run :=
  hx.bind fun a => .pure (Except.ok a)

theorem ofExcept (y : Except ε α) : r.ThroughLookups (ofExcept y : ExceptT ε RegistryM α).run := by
  cases y with
  | ok a => exact .pure (Except.ok a)
  | error e => exact .pure (Except.error e)

theorem bind_run {x : ExceptT ε RegistryM α} {f : α → ExceptT ε RegistryM β}
    (hx : r.ThroughLookups x.run) (hf : ∀ a, r.ThroughLookups (f a).run) :
    r.ThroughLookups (x >>= f).run := by
  refine hx.bind fun y => ?_
  cases y with
  | ok a => exact hf a
  | error e => exact .pure (Except.error e)

/-! ### Queries, comparisons and copies -/

theorem queryProperty (name : String) (b : Bean) :
    r.ThroughLookups (r.queryProperty name b).run :=
  bind_run (.lookup b.type) fun _ => .ofExcept _

theorem follow (previous : String) (current : Option Value) (names : List String) :
    r.ThroughLookups (r.follow previous current names).run := by
  induction names generalizing previous current with
  | nil => exact .pure (Except.ok current)
  | cons name rest ih =>
    unfold Registry.follow
    cases current with
    | none => exact .pure (Except.ok none)
    | some v =>
      dsimp only
      cases v.link with
      | bean b => exact bind_run (queryProperty name b) fun found => ih name found
      | absent => exact .pure (Except.ok none)
      | other => exact .pure (Except.error _)

theorem query (q : Query) (b : Bean) : r.ThroughLookups (r.query q b).run := by
  cases q with
  | property name => exact queryProperty name b
  | path names =>
    cases names with
    | nil => exact .pure (Except.ok none)
    | cons name rest => exact bind_run (queryProperty name b) fun found => follow name found rest

theorem found (q : Query) (b : Bean) : r.ThroughLookups (r.found q b) :=
  (query q b).bind fun _ => .pure _

theorem comparator [Traits] (q : Query) (isAscending : Bool) (a b : Bean) :
    r.ThroughLookups (r.comparator q isAscending a b) :=
  (found q a).bind fun _ => (found q b).bind fun _ => .pure _

theorem propertiesEqual [Traits] (a b : Bean) : r.ThroughLookups (r.propertiesEqual a b).run := by
  refine bind_run (.lookup a.type) fun d => bind_run (.lookup b.type) fun e => ?_
  split
  · exact .pure (Except.ok false)
  · exact .ofExcept _

theorem propertiesHash [Traits] (H : HashFunction) (b : Bean) :
    r.ThroughLookups (r.propertiesHash H b).run :=
  bind_run (.lookup b.type) fun _ => bind_run (.ofExcept _) fun _ => .pure _

theorem equalIgnoring [Traits] (ignored : List String) (a b : Bean) :
    r.ThroughLookups (r.equalIgnoring ignored a b).run := by
  unfold Registry.equalIgnoring
  split
  · exact .pure (Except.ok false)
  · exact bind_run (.lookup a.type) fun d => .ofExcept _

theorem copy (b : Bean) : r.ThroughLookups (r.copy b).run := by
  refine bind_run (.lookup b.type) fun d => bind_run (.ofExcept _) fun builder => ?_
  exact bind_run (lift (.logged builder.build)) fun built => .ofExcept built

/-! ### Serialization -/

theorem present (b : Bean) : r.ThroughLookups (Serializer.present r b).run :=
  bind_run (.lookup b.type) fun d => bind_run (.ofExcept (d.readAll b)) fun _ => .pure _

/-- A serialization reaches the table through look-ups only, whatever the serializer has come to. -/
def Serial (r : Registry) (x : SerialM σ α) : Prop :=
  ∀ s, r.ThroughLookups (x.run s).run

namespace Serial

variable {S : Serializer σ} {bean : Bean → SerialM σ Unit}

theorem pure (a : α) : Serial r (Pure.pure a : SerialM σ α) :=
  fun s => .pure (Except.ok (a, s))

theorem ofExcept (y : Except String α) : Serial r (MonadExcept.ofExcept y : SerialM σ α) := by
  intro s
  cases y with
  | ok a => exact .pure (Except.ok (a, s))
  | error text => exact .pure (Except.error text)

theorem bind {x : SerialM σ α} {f : α → SerialM σ β} (hx : Serial r x) (hf : ∀ a, Serial r (f a)) :
    Serial r (x >>= f) :=
  fun s => bind_run (hx s) fun p => hf p.1 p.2

theorem emit (e : SerialEvent) : Serial r (S.emit e) := by
  refine bind (fun s => .pure (Except.ok (s, s))) fun s => bind (.ofExcept (S.accept e s)) fun s' => ?_
  exact fun _ => .pure (Except.ok ((), s'))

theorem attempt {x : LookupM α} (hx : r.ThroughLookups x.run) :
    Serial r (Serializer.attempt x : SerialM σ α) := by
  refine bind (fun s => ?_) fun y => .ofExcept (y.mapError BeanError.message)
  exact bind_run (lift hx) fun y => .pure (Except.ok (y, s))

theorem emitItems {items : List Value} (h : ∀ v ∈ items, Serial r (S.emitValue bean v)) :
    Serial r (S.emitItems bean items) := by
  induction items with
  | nil => exact .pure ()
  | cons v rest ih =>
    rw [List.forall_mem_cons] at h
    exact h.1.bind fun _ => ih h.2

theorem emitEntries {entries : List (Value × Value)}
    (h : ∀ entry ∈ entries, Serial r (S.emitValue bean entry.1) ∧ Serial r (S.emitValue bean entry.2)) :
    Serial r (S.emitEntries bean entries) := by
  induction entries with
  | nil => exact .pure ()
  | cons entry rest ih =>
    rw [List.forall_mem_cons] at h
    exact h.1.1.bind fun _ => h.1.2.bind fun _ => ih h.2

theorem emitValue (hbean : ∀ b, Serial r (bean b)) (v : Value) : Serial r (S.emitValue bean v) := by
  induction v using Value.induction_parts with
  | step v ih =>
    cases v with
    | scalar s => exact .emit (.scalar s.portable)
    | leaf l content => exact fun s => .pure (Except.error _)
    | option item content =>
      cases content with
      | none => exact .emit .none
      | some v => exact (emit .some).bind fun _ => ih v (Value.mem_parts_option.mpr rfl)
    | list item items =>
      refine (emit _).bind fun _ => (emitItems fun v hv => ?_).bind fun _ => .emit .listEnd
      exact ih v hv
    | set storage item items =>
      refine (emit _).bind fun _ => (emitItems fun v hv => ?_).bind fun _ => .emit .listEnd
      exact ih v hv
    | map storage key mapped entries =>
      refine (emit _).bind fun _ => (emitEntries fun entry hentry => ?_).bind fun _ => .emit .mapEnd
      exact ⟨ih _ (Value.key_mem_parts hentry), ih _ (Value.mapped_mem_parts hentry)⟩
    | bean b cells => exact hbean ⟨b, cells⟩

theorem emitProperties (hbean : ∀ b, Serial r (bean b)) (properties : List (String × Value)) :
    Serial r (S.emitProperties bean properties) := by
  induction properties with
  | nil => exact .pure ()
  | cons p rest ih => exact (emit _).bind fun _ => (emitValue hbean p.2).bind fun _ => ih

theorem emitBean (depth : Nat) (b : Bean) : Serial r (S.emitBean r depth b) := by
  induction depth generalizing b with
  | zero => exact fun s => .pure (Except.error _)
  | succ depth ih =>
    refine (attempt (present b)).bind fun properties => (emit _).bind fun _ => ?_
    exact (emitProperties ih properties).bind fun _ => .emit .mapEnd

end Serial

end ThroughLookups

/-- The computations that beans are looked up, queried, compared, copied and serialized with. -/
inductive Operation [Traits] (r : Registry) : {α : Type} → RegistryM α → Prop where
  | lookup (type : BeanType) : r.Operation (r.lookup type).run
  | lookupBean (b : Bean) : r.Operation (r.lookupBean b).run
  | query (q : Query) (b : Bean) : r.Operation (r.query q b).run
  | comparator (q : Query) (isAscending : Bool) (a b : Bean) :
    r.Operation (r.comparator q isAscending a b)
  | propertiesEqual (a b : Bean) : r.Operation (r.propertiesEqual a b).run
  | propertiesHash (H : HashFunction) (b : Bean) : r.Operation (r.propertiesHash H b).run
  | equalIgnoring (ignored : List String) (a b : Bean) :
    r.Operation (r.equalIgnoring ignored a b).run
  | copy (b : Bean) : r.Operation (r.copy b).run
  | serialize {σ : Type} (S : Serializer σ) (depth : Nat) (b : Bean) (s : σ) :
    r.Operation ((S.emitBean r depth b).run s).run

theorem Operation.throughLookups [Traits] {r : Registry} {α : Type} {x : RegistryM α} (hx : r.Operation x) :
    r.ThroughLookups x := by
  cases hx with
  | lookup type => exact .lookup type
  | lookupBean b => exact .lookup b.type
  | query q b => exact .query q b
  | comparator q isAscending a b => exact .comparator q isAscending a b
  | propertiesEqual a b => exact .propertiesEqual a b
  | propertiesHash H b => exact .propertiesHash H b
  | equalIgnoring ignored a b => exact .equalIgnoring ignored a b
  | copy b => exact .copy b
  | serialize S depth b s => exact ThroughLookups.Serial.emitBean depth b s

/-- What is looked up through the handle comes to the same in both tables. -/
def LookupsAgree (r : Registry) (t t' : RegistryTable) : Prop :=
  ∀ type, (r.lookup type).outcome t = (r.lookup type).outcome t'

theorem LookupsAgree.after_lookup {r : Registry} {t t' : RegistryTable} (h : r.LookupsAgree t t')
    (type : BeanType) : r.LookupsAgree t ((r.lookup type).after t') := by
  intro type'
  rw [h type', r.outcome_lookup type' ((r.lookup type).after t'), get?_after_lookup]
  split
  · next hsame => rw [hsame, Option.getD_some]
  · exact r.outcome_lookup type' t'

namespace ThroughLookups

variable {r : Registry} {α : Type} {x : RegistryM α} {t t' : RegistryTable}

theorem keeps {P : RegistryTable → Prop} (hP : ∀ type t, P t → P ((r.lookup type).after t))
    (hx : r.ThroughLookups x) (ht : P t) : P (x t).result.2 := by
  induction hx generalizing t with
  | logged y => exact ht
  | lookup type => exact hP type t ht
  | bind _ _ ihx ihf => exact ihf _ (ihx ht)

theorem result_extends (hx : r.ThroughLookups x) (t : RegistryTable) : (x t).result.2.Extends t := by
  apply hx.keeps (P := (RegistryTable.Extends · t)) _ (.refl t)
  intro type t' h
  exact (r.call_extends t' (.lookup type)).trans h

/-- The computation enters nothing that a look-up before it would not have entered. -/
theorem agrees_after (hx : r.ThroughLookups x) (h : r.LookupsAgree t t') :
    r.LookupsAgree t (x t').result.2 :=
  hx.keeps (P := r.LookupsAgree t) (fun type _ h => h.after_lookup type) h

/-- What it comes to depends on what look-ups come to, and on nothing else in the table. -/
theorem result_eq_of_agree (hx : r.ThroughLookups x) (h : r.LookupsAgree t t') :
    (x t).result.1 = (x t').result.1 := by
  induction hx generalizing t t' with
  | logged y => rfl
  | lookup type => exact h type
  | @bind _ _ x f hx _ ihx ihf =>
    -- what `f` starts with is the same, in tables that the first part has left in agreement
    have hbefore : r.LookupsAgree (x t).result.2 t := fun type =>
      (hx.agrees_after (fun _ => rfl) type).symm
    have hafter : r.LookupsAgree (x t).result.2 (x t').result.2 := by
      refine hx.agrees_after fun type => ?_
      exact (hbefore type).trans (h type)
    change (f (x t).result.1 (x t).result.2).result.1 = (f (x t').result.1 (x t').result.2).result.1
    rw [ihx h]
    exact ihf _ hafter

/-- Done again, whatever has been entered since, the computation comes to the same and enters nothing. -/
theorem repeats (hx : r.ThroughLookups x) (h : t'.Extends (x t).result.2) :
    (x t').result = ((x t).result.1, t') := by
  induction hx generalizing t with
  | logged y => rfl
  | lookup type =>
    refine r.result_lookup_of_entry type t' (h.keeps type _ ?_)
    exact (r.get?_after_lookup type t type).trans (if_pos rfl)
  | @bind _ _ x f _ hf ihx ihf =>
    have hfirst : (x t').result = ((x t).result.1, t') := ihx (h.trans ((hf _).result_extends _))
    change (f (x t').result.1 (x t').result.2).result = _
    rw [hfirst]
    exact ihf _ h

end ThroughLookups

end Registry

/-! ### Tables that have been in use -/

/-- A table that some handles have come to, each with some of the overrides, by calls and operations in
any order, with no descriptors registered but some. -/
inductive Catalog.Reaches (c : Catalog) (handles : Set Registry.Overrides)
    (registered : Set Descriptor) : RegistryTable → Prop where
  | fresh : c.Reaches handles registered ∅
  | call {t : RegistryTable} {o : Registry.Overrides} (ht : c.Reaches handles registered t)
    (ho : o ∈ handles) {x : Registry.Call} (hx : ∀ d, x = .register d → d ∈ registered) :
    c.Reaches handles registered ((c.handle o).call t x).2
  | operation {t : RegistryTable} {o : Registry.Overrides} (ht : c.Reaches handles registered t)
    (ho : o ∈ handles) [Traits] {α : Type} {x : RegistryM α} (hx : (c.handle o).Operation x) :
    c.Reaches handles registered (x t).result.2

namespace Catalog.Reaches

variable {c : Catalog} {handles : Set Registry.Overrides} {registered : Set Descriptor}
  {t : RegistryTable}

theorem keeps {P : RegistryTable → Prop} (hfresh : P ∅)
    (hlookup : ∀ o ∈ handles, ∀ type t, P t → P (((c.handle o).lookup type).after t))
    (hregister : ∀ o ∈ handles, ∀ d ∈ registered, ∀ t, t.entries.get? d.type = none → P t →
      P ((c.handle o).call t (.register d)).2)
    (ht : c.Reaches handles registered t) : P t := by
  induction ht with
  | fresh => exact hfresh
  | @call t o _ ho x hx ih =>
    rcases (c.handle o).call_cases t x with h | ⟨type, -, -, h⟩ | ⟨d, hnew, rfl⟩
    · rw [h]
      exact ih
    · rw [h]
      exact hlookup o ho type t ih
    · exact hregister o ho d (hx d rfl) t hnew ih
  | operation _ ho hx ih => exact hx.throughLookups.keeps (hlookup _ ho) ih

theorem after {o : Registry.Overrides} {α : Type} {x : LookupM α}
    (ht : c.Reaches handles registered t) (ho : o ∈ handles) [Traits]
    (hx : (c.handle o).Operation x.run) :
    c.Reaches handles registered (x.after t) :=
  ht.operation ho hx

/-- What holds of the descriptors that schemas of the catalog have, and of those that are registered, holds
of every entry. -/
theorem entry {P : Descriptor → Prop}
    (hdescribed : ∀ type kind D converter,
      (Descriptor.ofSchema (c.schemaOf type) kind).result = .ok D → P { D with converter })
    (hregistered : ∀ d ∈ registered, ∀ r : Registry, P (r.adopt d))
    (ht : c.Reaches handles registered t) :
    ∀ type d, t.entries.get? type = some (.ok d) → P d := by
  apply ht.keeps (P := fun t => ∀ type d, t.entries.get? type = some (.ok d) → P d)
  · exact nofun
  · intro o _ type t ht type' d hd
    rcases (c.handle o).entry_after_lookup type t hd with hd | ⟨rfl, hnew⟩
    · exact ht type' d hd
    · rw [Registry.describe_eq] at hnew
      obtain ⟨D, hD, rfl⟩ := map_eq_ok.mp hnew.symm
      exact hdescribed type' _ D _ hD
  · intro o _ d hd t hnew ht type D hD
    rw [(c.handle o).call_register_of_new hnew, Table.get?_insert] at hD
    split at hD
    · cases hD
      exact hregistered d hd _
    · exact ht type D hD

end Catalog.Reaches

/-! ### Histories without registrations -/

/-- The entries are what the handle describes the types as. -/
def RegistryTable.DescribedBy (t : RegistryTable) (r : Registry) : Prop :=
  ∀ type entry, t.entries.get? type = some entry → entry = (r.describe type).result

namespace RegistryTable.DescribedBy

variable {r : Registry} {t t' : RegistryTable}

theorem empty : (∅ : RegistryTable).DescribedBy r :=
  nofun

theorem outcome_lookup (ht : t.DescribedBy r) (type : BeanType) :
    (r.lookup type).outcome t = (r.describe type).result := by
  rw [Registry.outcome_lookup]
  cases h : t.entries.get? type with
  | some entry => exact ht type entry h
  | none => rfl

theorem after_lookup (ht : t.DescribedBy r) (type : BeanType) :
    ((r.lookup type).after t).DescribedBy r := by
  intro type' entry hentry
  rcases r.entry_after_lookup type t hentry with hentry | ⟨rfl, hnew⟩
  · exact ht type' entry hentry
  · exact hnew

/-- Between such tables, what look-ups come to makes no difference. -/
theorem result_eq (ht : t.DescribedBy r) (ht' : t'.DescribedBy r) {α : Type} {x : RegistryM α}
    (hx : r.ThroughLookups x) : (x t).result.1 = (x t').result.1 :=
  hx.result_eq_of_agree fun type => (ht.outcome_lookup type).trans (ht'.outcome_lookup type).symm

end RegistryTable.DescribedBy

namespace Catalog

/-- Handles with the same overrides that register nothing come to the same results whatever they have
done before. -/
theorem history_unobservable [Traits] {c : Catalog} {o : Registry.Overrides} {t : RegistryTable}
    (ht : c.Reaches {o} ∅ t) {α : Type} {x : RegistryM α} (hx : (c.handle o).Operation x) :
    (x t).result.1 = (x ∅).result.1 := by
  have hdescribed : t.DescribedBy (c.handle o) := by
    apply ht.keeps (P := (RegistryTable.DescribedBy · (c.handle o))) .empty
    · rintro _ rfl type t ht
      exact ht.after_lookup type
    · exact fun _ _ _ hd => hd.elim
  exact hdescribed.result_eq .empty hx.throughLookups

section Atlas

attribute [local instance] Workshop.traits

/-- A place has been looked up in vain, and waypoints have been compared. -/
theorem atlas_history_unobservable :
    let o : Registry.Overrides := { kind := some .handle }
    let r := atlas.handle o
    let summit : Bean :=
      ⟨Descriptor.waypoint.type, [some (.ofString "summit"), some (.scalar (.int .i32 4478))]⟩
    let compared := r.comparator (.property "label") true summit summit
    let t := (compared (r.call ∅ (.lookup ⟨"atlas", "Place", .row⟩)).2).result.2
    let x := (r.query (.path ["label"]) summit).run
    t.size = 2 ∧ atlas.Reaches {o} ∅ t ∧ r.Operation x ∧
      (x t).result.1 = (x ∅).result.1 ∧
      (x ∅).result.1 = .ok (some (.ofString "summit")) := by
  intro o r summit compared t x
  have ho : o ∈ ({o} : Set Registry.Overrides) := rfl
  have hcall : atlas.Reaches {o} ∅ (r.call ∅ (.lookup ⟨"atlas", "Place", .row⟩)).2 :=
    .call .fresh ho fun _ h => by cases h
  have ht : atlas.Reaches {o} ∅ t :=
    hcall.operation ho (.comparator (.property "label") true summit summit)
  have hx : r.Operation x := .query (.path ["label"]) summit
  exact ⟨rfl, ht, hx, history_unobservable ht hx, rfl⟩

end Atlas

end Catalog

end Beans
