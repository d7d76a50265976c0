import Beans.Proofs.BeanEquality
import Beans.Proofs.Documents
/-!
# Serialization tells of documents

A serialization that succeeds has told the serializer of the document of the bean, event by event and of
nothing else, and one succeeds if there is a document and the serializer refuses no event. Both are shown
along the steps: what succeeds as a whole succeeds in its steps, and steps that tell of events tell of them
one after another. In between only the look-ups may change the table, and what they come to stays.
-/

set_option autoImplicit false

namespace Beans

namespace SerialM

variable {σ α β : Type}

def outcome (x : SerialM σ α) (s : σ) (t : RegistryTable) : Except String (α × σ) :=
  ((x.run s).run.run t).result.1

def after (x : SerialM σ α) (s : σ) (t : RegistryTable) : RegistryTable :=
  ((x.run s).run.run t).result.2

theorem outcome_bind (x : SerialM σ α) (f : α → SerialM σ β) (s : σ) (t : RegistryTable) :
    (x >>= f).outcome s t =
      x.outcome s t >>= fun p => (f p.1).outcome p.2 (x.after s t) := by
  have h : (x >>= f).outcome s t =
      (ExceptT.bindCont (fun p => (f p.1).run p.2) ((x.run s).run.run t).result.1
        ((x.run s).run.run t).result.2).result.1 := rfl
  rw [h]
  unfold outcome after
  cases ((x.run s).run.run t).result.1 <;> rfl

theorem outcome_ofExcept (y : Except String α) (s : σ) (t : RegistryTable) :
    (ofExcept y : SerialM σ α).outcome s t = y.map (·, s) := by
  cases y <;> rfl

end SerialM

namespace Serializer

variable {σ : Type} (S : Serializer σ)

def acceptAll (events : List SerialEvent) (s : σ) : Except String σ :=
  events.foldlM (fun s e => S.accept e s) s

variable {S} {events events' : List SerialEvent}

theorem acceptAll_append (s : σ) :
    S.acceptAll (events ++ events') s = S.acceptAll events s >>= S.acceptAll events' :=
  List.foldlM_append

theorem exists_acceptAll (hS : ∀ e s, ∃ s', S.accept e s = .ok s') (events : List SerialEvent) (s : σ) :
    ∃ s', S.acceptAll events s = .ok s' := by
  induction events generalizing s with
  | nil => exact ⟨s, rfl⟩
  | cons e rest ih =>
    obtain ⟨s', hs'⟩ := hS e s
    obtain ⟨s'', hs''⟩ := ih s'
    exact ⟨s'', bind_eq_ok.mpr ⟨s', hs', hs''⟩⟩

theorem outcome_emit (e : SerialEvent) (s : σ) (t : RegistryTable) :
    (S.emit e).outcome s t = (S.accept e s).map ((), ·) := by
  have hget : (getThe σ : SerialM σ σ).outcome s t = .ok (s, s) := rfl
  unfold emit
  rw [SerialM.outcome_bind, hget]
  change SerialM.outcome (ofExcept (S.accept e s) >>= fun s' => set s') s _ = _
  rw [SerialM.outcome_bind, SerialM.outcome_ofExcept]
  cases S.accept e s <;> rfl

theorem outcome_attempt {α : Type} (x : LookupM α) (s : σ) (t : RegistryTable) :
    (attempt x : SerialM σ α).outcome s t = ((x.outcome t).mapError BeanError.message).map (·, s) := by
  have hrun : (liftM x.run : SerialM σ (Except BeanError α)).outcome s t = .ok (x.outcome t, s) := rfl
  unfold attempt
  change SerialM.outcome (liftM x.run >>= fun y => ofExcept (y.mapError BeanError.message)) s t = _
  rw [SerialM.outcome_bind, hrun]
  exact SerialM.outcome_ofExcept _ s _

/-! ### Telling of documents -/

section Tells

open Registry.ThroughLookups (Serial)

variable {r : Registry} {t : RegistryTable}

/-- However far the serializer is, it is told of the events, while look-ups come to what they come to in
the table. -/
structure Tells (S : Serializer σ) (r : Registry) (t : RegistryTable) (x : SerialM σ Unit)
    (events : List SerialEvent) : Prop where
  serial : Serial r x
  outcome : ∀ s t', r.LookupsAgree t t' → x.outcome s t' = (S.acceptAll events s).map ((), ·)

namespace Tells

variable {x y : SerialM σ Unit} {bean : Bean → SerialM σ Unit} {document : Value → Document}

theorem bind (hx : Tells S r t x events) (hy : Tells S r t y events') :
    Tells S r t (x >>= fun _ => y) (events ++ events') := by
  refine ⟨hx.serial.bind fun _ => hy.serial, fun s t' h => ?_⟩
  rw [SerialM.outcome_bind, hx.outcome s t' h, acceptAll_append]
  cases S.acceptAll events s with
  | error e => rfl
  | ok s' => exact hy.outcome s' _ ((hx.serial s).agrees_after h)

theorem emit (e : SerialEvent) : Tells S r t (S.emit e) [e] := by
  refine ⟨.emit e, fun s t' _ => ?_⟩
  rw [outcome_emit]
  unfold acceptAll
  rw [List.foldlM_cons]
  cases S.accept e s <;> rfl

theorem nothing : Tells S r t (pure ()) [] :=
  ⟨.pure (), fun _ _ _ => rfl⟩

theorem items {items : List Value}
    (h : ∀ v ∈ items, Tells S r t (S.emitValue bean v) (document v).events) :
    Tells S r t (S.emitItems bean items) (Document.itemEvents (items.map document)) := by
  induction items with
  | nil => exact nothing
  | cons v rest ih =>
    obtain ⟨hv, hrest⟩ := List.forall_mem_cons.mp h
    exact hv.bind (ih hrest)

theorem entries {entries : List (Value × Value)}
    (hkey : ∀ e ∈ entries, Tells S r t (S.emitValue bean e.1) (document e.1).events)
    (hmapped : ∀ e ∈ entries, Tells S r t (S.emitValue bean e.2) (document e.2).events) :
    Tells S r t (S.emitEntries bean entries)
      (Document.entryEvents (entries.map fun e => (document e.1, document e.2))) := by
  induction entries with
  | nil => exact nothing
  | cons e rest ih =>
    obtain ⟨hk, hkeys⟩ := List.forall_mem_cons.mp hkey
    obtain ⟨hm, hrest⟩ := List.forall_mem_cons.mp hmapped
    exact hk.bind (hm.bind (ih hkeys hrest))

theorem properties {properties : List (String × Value)}
    (h : ∀ p ∈ properties, Tells S r t (S.emitValue bean p.2) (document p.2).events) :
    Tells S r t (S.emitProperties bean properties)
      (Document.entryEvents (properties.map fun p => (.scalar (.string p.1), document p.2))) := by
  induction properties with
  | nil => exact nothing
  | cons p rest ih =>
    obtain ⟨hp, hrest⟩ := List.forall_mem_cons.mp h
    exact (emit _).bind (hp.bind (ih hrest))

theorem attempt {α : Type} {x : LookupM α} {f : α → SerialM σ Unit} {a : α}
    (hx : r.ThroughLookups x.run) (ha : x.outcome t = .ok a) (hserial : ∀ a, Serial r (f a))
    (h : Tells S r t (f a) events) : Tells S r t (attempt x >>= f) events := by
  have hattempt : Serial r (Serializer.attempt x : SerialM σ α) := .attempt hx
  refine ⟨hattempt.bind hserial, fun s t' hagree => ?_⟩
  have hsame : x.outcome t' = .ok a := (hx.result_eq_of_agree hagree).symm.trans ha
  rw [SerialM.outcome_bind, outcome_attempt, hsame]
  exact h.outcome s _ ((hattempt s).agrees_after hagree)

end Tells

theorem outcome_present {b : Bean} {properties : List (String × Value)} :
    (present r b).outcome t = .ok properties ↔
      ∃ D, (r.lookup b.type).outcome t = .ok D ∧ D.Reads b ∧ properties = D.held b := by
  have hheld (D : Descriptor) : (D.properties.map fun p => (p.name, (p.get b).toOption.join)).filterMap
      (fun shown => shown.2.map (shown.1, ·)) = D.held b := List.filterMap_map
  have hpresent : (present r b).outcome t = (do
      let D ← (r.lookup b.type).outcome t
      let values ← D.readAll b
      return values.filterMap fun shown => shown.2.map (shown.1, ·)) := by
    unfold present
    rw [LookupM.outcome_bind]
    refine bind_congr fun D => ?_
    rw [LookupM.outcome_bind, LookupM.outcome_ofExcept]
    rfl
  rw [hpresent]
  constructor
  · intro h
    obtain ⟨D, hD, h⟩ := bind_eq_ok.mp h
    obtain ⟨values, hvalues, h⟩ := bind_eq_ok.mp h
    have hread := Descriptor.reads_of_readAll hvalues
    cases (Descriptor.readAll_of_reads hread).symm.trans hvalues
    cases h
    exact ⟨D, hD, hread, hheld D⟩
  · rintro ⟨D, hD, hread, rfl⟩
    refine bind_eq_ok.mpr ⟨D, hD, bind_eq_ok.mpr ⟨_, Descriptor.readAll_of_reads hread, ?_⟩⟩
    exact congrArg Except.ok (hheld D)

/-- A value that has a document is told of by the events of the document. -/
theorem tells_of_writes {n : Nat} {v : Value} {d : Document} (h : r.Writes t n v d) :
    Tells S r t (S.emitValue (S.emitBean r n) v) d.events := by
  induction h with
  | scalar s => exact .emit _
  | absent item => exact .emit _
  | present item _ ih => exact (Tells.emit _).bind ih
  | list item document _ ih =>
    rw [Document.events, List.length_map]
    exact (Tells.emit _).bind ((Tells.items ih).bind (.emit _))
  | set storage item document _ ih =>
    rw [Document.events, List.length_map]
    exact (Tells.emit _).bind ((Tells.items ih).bind (.emit _))
  | map storage key mapped document _ _ ihkey ihmapped =>
    rw [Document.events, List.length_map]
    exact (Tells.emit _).bind ((Tells.entries ihkey ihmapped).bind (.emit _))
  | @bean n b cells D hD hread document _ ih =>
    rw [Document.events, List.length_map]
    have hpresent := (outcome_present (b := ⟨b, cells⟩)).mpr ⟨D, hD, hread, rfl⟩
    apply Tells.attempt (.present ⟨b, cells⟩) hpresent
    · intro properties
      refine Serial.bind (.emit _) fun _ => Serial.bind ?_ fun _ => .emit _
      exact .emitProperties (Serial.emitBean n) properties
    · exact (Tells.emit _).bind ((Tells.properties ih).bind (.emit _))

end Tells

/-! ### What success tells -/

section Succeeds

open Registry.ThroughLookups (Serial)

variable {r : Registry} {t : RegistryTable} {α β : Type}

/-- It succeeds from some state of the serializer on, with look-ups that come to what they come to in the
table. -/
def Succeeds (r : Registry) (t : RegistryTable) (x : SerialM σ α) : Prop :=
  ∃ s t' p, r.LookupsAgree t t' ∧ x.outcome s t' = .ok p

namespace Succeeds

variable {bean : Bean → SerialM σ Unit}

theorem bind {x : SerialM σ α} {f : α → SerialM σ β} (hx : Serial r x)
    (h : Succeeds r t (x >>= f)) : Succeeds r t x ∧ ∃ a, Succeeds r t (f a) := by
  obtain ⟨s, t', p, hagree, h⟩ := h
  rw [SerialM.outcome_bind] at h
  obtain ⟨q, hq, h⟩ := bind_eq_ok.mp h
  exact ⟨⟨s, t', q, hagree, hq⟩, q.1, q.2, _, p, (hx s).agrees_after hagree, h⟩

theorem attempt {x : LookupM α} {f : α → SerialM σ β} (hx : r.ThroughLookups x.run)
    (h : Succeeds r t (attempt x >>= f)) : ∃ a, x.outcome t = .ok a ∧ Succeeds r t (f a) := by
  obtain ⟨s, t', p, hagree, h⟩ := h
  rw [SerialM.outcome_bind, outcome_attempt] at h
  obtain ⟨q, hq, h⟩ := bind_eq_ok.mp h
  have hsame : x.outcome t = x.outcome t' := hx.result_eq_of_agree hagree
  cases hresult : x.outcome t' with
  | error e =>
    rw [hresult] at hq
    cases hq
  | ok a =>
    rw [hresult] at hq
    cases hq
    have hserial : Serial r (Serializer.attempt x : SerialM σ α) := .attempt hx
    exact ⟨a, hsame.trans hresult, s, _, p, (hserial s).agrees_after hagree, h⟩

theorem items (hbean : ∀ b, Serial r (bean b)) {items : List Value}
    (h : Succeeds r t (S.emitItems bean items)) : ∀ v ∈ items, Succeeds r t (S.emitValue bean v) := by
  induction items with
  | nil => exact nofun
  | cons v rest ih =>
    obtain ⟨hv, _, hrest⟩ := bind (.emitValue hbean v) h
    exact List.forall_mem_cons.mpr ⟨hv, ih hrest⟩

theorem entries (hbean : ∀ b, Serial r (bean b)) {entries : List (Value × Value)}
    (h : Succeeds r t (S.emitEntries bean entries)) :
    ∀ e ∈ entries, Succeeds r t (S.emitValue bean e.1) ∧ Succeeds r t (S.emitValue bean e.2) := by
  induction entries with
  | nil => exact nofun
  | cons e rest ih =>
    obtain ⟨hkey, _, h⟩ := bind (.emitValue hbean e.1) h
    obtain ⟨hmapped, _, hrest⟩ := bind (.emitValue hbean e.2) h
    exact List.forall_mem_cons.mpr ⟨⟨hkey, hmapped⟩, ih hrest⟩

theorem properties (hbean : ∀ b, Serial r (bean b)) {properties : List (String × Value)}
    (h : Succeeds r t (S.emitProperties bean properties)) :
    ∀ p ∈ properties, Succeeds r t (S.emitValue bean p.2) := by
  induction properties with
  | nil => exact nofun
  | cons p rest ih =>
    obtain ⟨_, _, h⟩ := bind (.emit _) h
    obtain ⟨hp, _, hrest⟩ := bind (.emitValue hbean p.2) h
    exact List.forall_mem_cons.mpr ⟨hp, ih hrest⟩

theorem parts (hbean : ∀ b, Serial r (bean b)) {v : Value} (hv : v.bean? = none)
    (h : Succeeds r t (S.emitValue bean v)) :
    v.isLeaf = false ∧ ∀ w ∈ v.parts, Succeeds r t (S.emitValue bean w) := by
  cases v with
  | scalar s => exact ⟨rfl, nofun⟩
  | leaf l content =>
    obtain ⟨s, t', p, _, h⟩ := h
    cases h
  | option item content =>
    cases content with
    | none => exact ⟨rfl, nofun⟩
    | some v =>
      obtain ⟨_, _, hcontent⟩ := bind (.emit _) h
      refine ⟨rfl, fun w hw => ?_⟩
      cases Value.mem_parts_option.mp hw
      exact hcontent
  | list item items | set storage item items =>
    obtain ⟨_, _, h⟩ := bind (.emit _) h
    obtain ⟨hitems, _⟩ := bind (.emitItems fun v _ => .emitValue hbean v) h
    exact ⟨rfl, Succeeds.items hbean hitems⟩
  | map storage key mapped entries =>
    obtain ⟨_, _, h⟩ := bind (.emit _) h
    obtain ⟨hentries, _⟩ := bind (.emitEntries fun e _ => ⟨.emitValue hbean e.1, .emitValue hbean e.2⟩) h
    refine ⟨rfl, fun w hw => ?_⟩
    obtain ⟨e, he, rfl | rfl⟩ := Value.mem_parts_map.mp hw
    · exact (Succeeds.entries hbean hentries e he).1
    · exact (Succeeds.entries hbean hentries e he).2
  | bean b cells => cases hv

theorem value {n : Nat} (hbean : ∀ b, Serial r (bean b))
    (hwrites : ∀ b, Succeeds r t (bean b) → ∃ d, r.Writes t n b.toValue d) (v : Value)
    (h : Succeeds r t (S.emitValue bean v)) : ∃ d, r.Writes t n v d := by
  induction v using Value.induction_parts with
  | step v ih =>
    cases v with
    | bean b cells => exact hwrites ⟨b, cells⟩ h
    | _ =>
      obtain ⟨hleaf, hparts⟩ := parts hbean rfl h
      exact Registry.exists_writes_of_parts rfl hleaf fun w hw => ih w hw (hparts w hw)

theorem exists_writes {n : Nat} {b : Bean} (h : Succeeds r t (S.emitBean r n b)) :
    ∃ d, r.Writes t n b.toValue d := by
  induction n generalizing b with
  | zero =>
    obtain ⟨s, t', p, _, h⟩ := h
    cases h
  | succ n ih =>
    obtain ⟨properties, hpresent, h⟩ := attempt (.present b) h
    obtain ⟨D, hD, hread, rfl⟩ := outcome_present.mp hpresent
    obtain ⟨_, _, h⟩ := bind (.emit _) h
    obtain ⟨hproperties, _⟩ := bind (.emitProperties (Serial.emitBean n) _) h
    refine Registry.exists_writes_of_held hD hread fun w hw => ?_
    obtain ⟨p, hp, rfl⟩ := List.mem_map.mp hw
    have hvalue := Succeeds.properties (Serial.emitBean n) hproperties p hp
    exact value (Serial.emitBean n) (fun b => ih) p.2 hvalue

end Succeeds

end Succeeds

/-! ### Whole beans -/

section Written

variable {r : Registry} {t : RegistryTable} {depth : Nat} {b : Bean} {d : Document} {s s' : σ}

/-- What the serializer comes to when it is told of a bean. -/
def written (S : Serializer σ) (r : Registry) (t : RegistryTable) (depth : Nat) (b : Bean) (s : σ) :
    Except String σ :=
  ((S.emitBean r depth b).outcome s t).map Prod.snd

theorem written_of_writes (h : r.Writes t depth b.toValue d) :
    S.written r t depth b s = S.acceptAll d.events s := by
  have htells : (S.emitBean r depth b).outcome s t = (S.acceptAll d.events s).map ((), ·) :=
    (tells_of_writes h).outcome s t fun _ => rfl
  unfold written
  rw [htells]
  cases S.acceptAll d.events s <;> rfl

theorem exists_writes_of_written (h : S.written r t depth b s = .ok s') :
    ∃ d, r.Writes t depth b.toValue d := by
  unfold written at h
  cases houtcome : (S.emitBean r depth b).outcome s t with
  | error e =>
    rw [houtcome] at h
    cases h
  | ok p => exact Succeeds.exists_writes ⟨s, t, p, fun _ => rfl, houtcome⟩

/-- A serializer that refuses nothing is given a bean exactly if the bean can be serialized, and is then told
of the document of the bean, however many beans may lie one in another. -/
theorem written_exact (hS : ∀ e s, ∃ s', S.accept e s = .ok s') (r : Registry) (t : RegistryTable)
    (b : Bean) (s : σ) :
    ((∃ depth s', S.written r t depth b s = .ok s') ↔ r.Serializable t b.toValue) ∧
      ∀ depth s', S.written r t depth b s = .ok s' →
        ∃ d, r.Writes t depth b.toValue d ∧ S.acceptAll d.events s = .ok s' ∧
          ∀ more ≥ depth, S.written r t more b s = .ok s' := by
  constructor
  · rw [Registry.serializable_iff_exists_writes]
    constructor
    · rintro ⟨depth, s', h⟩
      exact ⟨depth, exists_writes_of_written h⟩
    · rintro ⟨depth, d, hd⟩
      obtain ⟨s', hs'⟩ := exists_acceptAll hS d.events s
      exact ⟨depth, s', (written_of_writes hd).trans hs'⟩
  · intro depth s' h
    obtain ⟨d, hd⟩ := exists_writes_of_written h
    have hs' : S.acceptAll d.events s = .ok s' := (written_of_writes hd).symm.trans h
    exact ⟨d, hd, hs', fun more hmore => (written_of_writes (hd.mono hmore)).trans hs'⟩

end Written

def notes : Serializer (List SerialEvent) where
  accept e s := .ok (s ++ [e])

end Serializer

/-- Yards with a keeper, a spare part and tanks, and tanks with a level. -/
def Catalog.yard : Catalog where
  schemaOf type :=
    .sheet type (if type.name = "Tank" then [("level", .int .u8)] else
      [("keeper", .string), ("spare", .option .string), ("tanks", .list (.bean ⟨"yard", "Tank", .row⟩))])
  declaredKind _ := .handle
  autoRegistered := []

/-- Nobody is the keeper, there is no spare part, and one of the tanks has no level. -/
theorem Catalog.yard_written :
    let r := yard.handle {}
    let tank := Value.bean ⟨"yard", "Tank", .row⟩
    let tanks := [tank [some (.scalar (.int .u8 3))], tank [none]]
    let b : Bean := ⟨⟨"yard", "Yard", .row⟩,
      [none, some (.option .string none), some (.list (.bean ⟨"yard", "Tank", .row⟩) tanks)]⟩
    let told : List SerialEvent :=
      [.mapStart 2, .scalar (.string "spare"), .none, .scalar (.string "tanks"), .listStart 2,
        .mapStart 1, .scalar (.string "level"), .scalar (.int .u8 3), .mapEnd, .mapStart 0, .mapEnd,
        .listEnd, .mapEnd]
    (∀ e s, ∃ s', Serializer.notes.accept e s = .ok s') ∧ r.Serializable ∅ b.toValue ∧
      Serializer.notes.written r ∅ 2 b [] = .ok told ∧
      ∃ d, r.Writes ∅ 2 b.toValue d ∧ Serializer.notes.acceptAll d.events [] = .ok told ∧
        ∀ more ≥ 2, Serializer.notes.written r ∅ more b [] = .ok told := by
  intro r tank tanks b told
  have haccept (e : SerialEvent) (s : List SerialEvent) : ∃ s', Serializer.notes.accept e s = .ok s' :=
    ⟨s ++ [e], rfl⟩
  have htold : Serializer.notes.written r ∅ 2 b [] = .ok told := by decide +kernel
  obtain ⟨hserializable, hwritten⟩ := Serializer.written_exact haccept r ∅ b []
  exact ⟨haccept, hserializable.mp ⟨2, told, htold⟩, htold, hwritten 2 told htold⟩

end Beans
