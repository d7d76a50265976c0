import Beans.Proofs.Descriptor
import Beans.Proofs.OptionLayers
import Mathlib.Data.List.Perm.Subperm
/-!
# The constructor of an immutable bean

Of the constructors of an immutable bean the first one is taken whose parameters have the types of the
slots. Only where there is none, one is taken whose parameters have them under some `Option` layers, and
this has to be the only such one. So the order in which constructors are declared decides between those
with the same parameters, and about nothing else.
-/

set_option autoImplicit false

namespace Beans

namespace Constructor

variable {c : Constructor} {types : List Ty}

/-- There are as many parameters as types, and each has its type under some `Option` layers. -/
def Fits (c : Constructor) (types : List Ty) : Prop :=
  List.Forall₂ (fun param t => ∃ k, param = Ty.layered t k) c.params types

theorem matchesLeniently_iff_fits : c.matchesLeniently types = true ↔ c.Fits types := by
  simp only [matchesLeniently_iff, Ty.isAssignableFrom_iff]
  rfl

theorem MatchesExactly.fits (h : c.MatchesExactly types) : c.Fits types :=
  matchesLeniently_iff_fits.mp (matchesLeniently_of_matchesExactly h)

end Constructor

namespace Schema

/-- What the search among constructors for one that is given values of the types may come to. -/
inductive Resolution (types : List Ty) (constructors : List Constructor) : ConstructorSearch → Prop where
  /-- The first one that has the types, whatever else fits. -/
  | exact {before after : List Constructor} {c : Constructor}
      (hsplit : constructors = before ++ c :: after) (hc : c.MatchesExactly types)
      (hbefore : ∀ c' ∈ before, ¬ c'.MatchesExactly types) :
      Resolution types constructors (.found c)
  /-- The only one that fits. -/
  | fitting {before after : List Constructor} {c : Constructor}
      (hnone : ∀ c' ∈ constructors, ¬ c'.MatchesExactly types)
      (hsplit : constructors = before ++ c :: after) (hc : c.Fits types)
      (hothers : ∀ c' ∈ before ++ after, ¬ c'.Fits types) :
      Resolution types constructors (.found c)
  | ambiguous {c c' : Constructor} (hnone : ∀ c' ∈ constructors, ¬ c'.MatchesExactly types)
      (htwo : [c, c'].Subperm constructors) (hc : c.Fits types) (hc' : c'.Fits types) :
      Resolution types constructors .ambiguous
  | missing (hnone : ∀ c ∈ constructors, ¬ c.Fits types) : Resolution types constructors .missing

/-- What a search means for the descriptor of the bean. -/
def ConstructorSearch.outcome (bean : BeanType) : ConstructorSearch → Except BeanError Constructor
  | found c => .ok c
  | ambiguous => .error (.ambiguousConstructor bean)
  | missing => .error (.constructorNotFound bean)

variable {types : List Ty} {constructors permuted : List Constructor} {r : ConstructorSearch}

/-! ### The search in a list -/

theorem find?_exact_eq_none :
    constructors.find? (fun c => c.MatchesExactly types) = none ↔
      ∀ c ∈ constructors, ¬ c.MatchesExactly types := by
  simp [List.find?_eq_none]

theorem constructorFor_of_none (h : ∀ c ∈ constructors, ¬ c.MatchesExactly types) :
    constructorFor constructors types =
      match constructors.filter (·.matchesLeniently types) with
      | [c] => .found c
      | [] => .missing
      | _ => .ambiguous := by
  unfold constructorFor
  split
  · next c hfind => cases hfind.symm.trans (find?_exact_eq_none.mpr h)
  · rfl

theorem exists_pair {l : List Constructor} (hempty : l ≠ []) (hone : ∀ c, l ≠ [c]) :
    ∃ c c', [c, c'].Sublist l :=
  match l with
  | [] => absurd rfl hempty
  | [c] => absurd rfl (hone c)
  | c :: c' :: rest => ⟨c, c', List.sublist_append_left [c, c'] rest⟩

theorem resolution_constructorFor (types : List Ty) (constructors : List Constructor) :
    Resolution types constructors (constructorFor constructors types) := by
  unfold constructorFor
  split
  · next c hfind =>
    obtain ⟨hc, before, after, hsplit, hbefore⟩ := List.find?_eq_some_iff_append.mp hfind
    exact .exact hsplit (by simpa using hc) fun c' hc' => by simpa using hbefore c' hc'
  · next hfind =>
    have hnone := find?_exact_eq_none.mp hfind
    split
    · next c hfilter =>
      obtain ⟨before, after, hsplit, hbefore, hc, hafter⟩ := List.filter_eq_cons_iff.mp hfilter
      refine .fitting hnone hsplit (Constructor.matchesLeniently_iff_fits.mp hc) ?_
      intro c' hc' hfits
      have hlenient := Constructor.matchesLeniently_iff_fits.mpr hfits
      rcases List.mem_append.mp hc' with hc' | hc'
      · exact hbefore c' hc' hlenient
      · exact List.filter_eq_nil_iff.mp hafter c' hc' hlenient
    · next hfilter =>
      refine .missing fun c hc hfits => ?_
      exact List.filter_eq_nil_iff.mp hfilter c hc (Constructor.matchesLeniently_iff_fits.mpr hfits)
    · next hone hempty =>
      obtain ⟨c, c', hpair⟩ := exists_pair hempty hone
      have hfits : ∀ d ∈ [c, c'], d.Fits types := fun d hd =>
        Constructor.matchesLeniently_iff_fits.mp (List.mem_filter.mp (hpair.subset hd)).2
      exact .ambiguous hnone (hpair.trans List.filter_sublist).subperm (hfits c (by simp))
        (hfits c' (by simp))

theorem Resolution.constructorFor_eq (h : Resolution types constructors r) :
    constructorFor constructors types = r := by
  cases h with
  | @exact before after c hsplit hc hbefore =>
    have hfind : constructors.find? (fun c => c.MatchesExactly types) = some c :=
      List.find?_eq_some_iff_append.mpr ⟨by simpa using hc, before, after, hsplit,
        fun c' hc' => by simpa using hbefore c' hc'⟩
    rw [constructorFor, hfind]
  | @fitting before after c hnone hsplit hc hothers =>
    have hno : ∀ l : List Constructor, (∀ c' ∈ l, ¬ c'.Fits types) →
        l.filter (·.matchesLeniently types) = [] := fun l hl =>
      List.filter_eq_nil_iff.mpr fun c' hc' =>
        mt Constructor.matchesLeniently_iff_fits.mp (hl c' hc')
    obtain ⟨hbefore, hafter⟩ := List.forall_mem_append.mp hothers
    have hfilter : constructors.filter (·.matchesLeniently types) = [c] := by
      have hlenient := Constructor.matchesLeniently_iff_fits.mpr hc
      rw [hsplit, List.filter_append, hno before hbefore, List.nil_append, List.filter_cons,
        if_pos hlenient, hno after hafter]
    rw [constructorFor_of_none hnone, hfilter]
  | @ambiguous c c' hnone htwo hc hc' =>
    have hpair : [c, c'].filter (·.matchesLeniently types) = [c, c'] := by
      simp [Constructor.matchesLeniently_iff_fits, hc, hc']
    have hlength : 2 ≤ (constructors.filter (·.matchesLeniently types)).length := by
      have hle := (htwo.filter (·.matchesLeniently types)).length_le
      rwa [hpair] at hle
    rw [constructorFor_of_none hnone]
    generalize constructors.filter (·.matchesLeniently types) = fitting at hlength
    match fitting, hlength with
    | _ :: _ :: _, _ => rfl
  | missing hnone =>
    have hexact : ∀ c ∈ constructors, ¬ c.MatchesExactly types := fun c hc h => hnone c hc h.fits
    have hfilter : constructors.filter (·.matchesLeniently types) = [] :=
      List.filter_eq_nil_iff.mpr fun c hc => mt Constructor.matchesLeniently_iff_fits.mp (hnone c hc)
    rw [constructorFor_of_none hexact, hfilter]

theorem constructorFor_eq_iff : constructorFor constructors types = r ↔ Resolution types constructors r :=
  ⟨fun h => h ▸ resolution_constructorFor types constructors, Resolution.constructorFor_eq⟩

/-! ### Constructors in another order -/

theorem exists_constructorFor_of_exact {c : Constructor} (hmem : c ∈ constructors)
    (hc : c.MatchesExactly types) :
    ∃ c', constructorFor constructors types = .found c' ∧ c'.params = types := by
  have hsome : (constructors.find? (fun c => c.MatchesExactly types)).isSome = true :=
    List.find?_isSome.mpr ⟨c, hmem, decide_eq_true hc⟩
  obtain ⟨c', hc'⟩ := Option.isSome_iff_exists.mp hsome
  have hparams : c'.MatchesExactly types := by simpa using List.find?_some hc'
  exact ⟨c', by rw [constructorFor, hc'], hparams⟩

/-- Another order leads to the same refusal, or to a constructor with the same parameters. -/
theorem constructorFor_perm (hperm : permuted.Perm constructors) (bean : BeanType) :
    ((constructorFor permuted types).outcome bean).map (·.params) =
      ((constructorFor constructors types).outcome bean).map (·.params) := by
  have hresolution := resolution_constructorFor types constructors
  generalize constructorFor constructors types = r at hresolution
  cases hresolution with
  | @exact before after c hsplit hc hbefore =>
    have hmem : c ∈ permuted := hperm.mem_iff.mpr (by simp [hsplit])
    obtain ⟨c', hfound, hparams⟩ := exists_constructorFor_of_exact hmem hc
    rw [hfound]
    exact congrArg Except.ok (hparams.trans hc.symm)
  | @fitting before after c hnone hsplit hc hothers =>
    have hmem : c ∈ permuted := hperm.mem_iff.mpr (by simp [hsplit])
    obtain ⟨before', after', hsplit'⟩ := List.append_of_mem hmem
    have hrest : (before' ++ after').Perm (before ++ after) := by
      rw [hsplit, hsplit'] at hperm
      exact (List.perm_middle.symm.trans (hperm.trans List.perm_middle)).cons_inv
    have hfitting : Resolution types permuted (.found c) :=
      .fitting (fun c' hc' => hnone c' (hperm.mem_iff.mp hc')) hsplit' hc
        fun c' hc' => hothers c' (hrest.mem_iff.mp hc')
    rw [hfitting.constructorFor_eq]
  | ambiguous hnone htwo hc hc' =>
    have hambiguous : Resolution types permuted .ambiguous :=
      .ambiguous (fun c' hc' => hnone c' (hperm.mem_iff.mp hc')) (htwo.trans hperm.symm.subperm) hc hc'
    rw [hambiguous.constructorFor_eq]
  | missing hnone =>
    have hmissing : Resolution types permuted .missing :=
      .missing fun c hc => hnone c (hperm.mem_iff.mp hc)
    rw [hmissing.constructorFor_eq]

/-! ### Descriptors -/

section Schemas

variable {s : Schema} {kind : AccessorKind} {l : PropertyLayout}

theorem slotTypes_of_immutable (himmutable : s.isMutable = false) (h : s.allProperties kind = .ok l) :
    l.slotTypes = s.propertyFields.map (·.1.type) := by
  obtain ⟨own, derived, -, hown, -, -, htypes, -⟩ := allProperties_eq_ok h
  have hfields : s.propertyFields.zipIdx.map (·.1.1.type) = own.map (·.slotType) :=
    map_eq_map_of_forall₂ hown fun x p hp => ((fieldProperty_ofField hp).slotType himmutable).symm
  calc l.slotTypes
    _ = s.propertyFields.zipIdx.map (·.1.1.type) := htypes.trans hfields.symm
    _ = (s.propertyFields.zipIdx.map Prod.fst).map (·.1.type) := by rw [List.map_map]; rfl
    _ = s.propertyFields.map (·.1.type) := by rw [List.zipIdx_map_fst]

theorem constructor_ofSchema (himmutable : s.isMutable = false) (h : s.allProperties kind = .ok l) :
    (Descriptor.ofSchema s kind).result.map (·.constructor) =
      (constructorFor s.constructors (s.propertyFields.map (·.1.type))).outcome s.type := by
  have hsearch : s.searchConstructor l.slotTypes =
      constructorFor s.constructors (s.propertyFields.map (·.1.type)) := by
    rw [searchConstructor, himmutable, slotTypes_of_immutable himmutable h]
    rfl
  unfold Descriptor.ofSchema
  rw [h]
  simp only [hsearch, himmutable]
  cases constructorFor s.constructors (s.propertyFields.map (·.1.type)) <;> rfl

/-- A reflective accessor holds the schema, and with it the constructors. It is made for the same
bindings. -/
theorem ofBinding?_withConstructors (s : Schema) (constructors : List Constructor) (b : Binding)
    (kind : AccessorKind) :
    SameOutcome (fun _ _ => True) (Accessor.ofBinding? s b kind)
      (Accessor.ofBinding? { s with constructors } b kind) := by
  cases kind with
  | handle => exact .refl (fun _ => trivial) (Accessor.ofBinding? s b .handle)
  | generated => exact .refl (fun _ => trivial) (Accessor.ofBinding? s b .generated)
  | reflective =>
    have h := Accessor.reflective_sameOutcome_handle s b
    have h' : SameOutcome Accessor.Agrees (Accessor.ofBinding? { s with constructors } b .reflective)
        (Accessor.ofBinding? s b .handle) := Accessor.reflective_sameOutcome_handle _ b
    generalize Accessor.ofBinding? s b .reflective = x,
      Accessor.ofBinding? { s with constructors } b .reflective = x',
      Accessor.ofBinding? s b .handle = y at h h' ⊢
    cases h with
    | error e =>
      cases h'
      exact .error e
    | ok _ =>
      cases h'
      exact .ok trivial

theorem allProperties_withConstructors (s : Schema) (constructors : List Constructor)
    (kind : AccessorKind) :
    SameOutcome (PropertyLayout.AlikeBy fun _ _ => True) (s.allProperties kind)
      ({ s with constructors }.allProperties kind) := by
  have hfield (x : Field × FieldStyle) (slot : Nat) :
      SameOutcome (Property.AlikeBy fun _ _ => True) (s.fieldProperty kind slot x.1 x.2)
        ({ s with constructors }.fieldProperty kind slot x.1 x.2) := by
    rw [fieldProperty_eq, fieldProperty_eq]
    have hbinding : SameOutcome Eq (s.bindingOf x.1 x.2) ({ s with constructors }.bindingOf x.1 x.2) :=
      .refl (fun _ => rfl) (s.bindingOf x.1 x.2)
    refine hbinding.bind ?_
    rintro ⟨b, type, slotType⟩ _ rfl
    exact (ofBinding?_withConstructors s constructors b kind).bind fun a a' _ => .ok ⟨a', rfl, trivial⟩
  have hderived (x : Method × String × Ty) :
      SameOutcome (Property.AlikeBy fun _ _ => True) (s.derivedProperty kind x.1 x.2.1 x.2.2)
        ({ s with constructors }.derivedProperty kind x.1 x.2.1 x.2.2) := by
    rw [derivedProperty_eq, derivedProperty_eq]
    exact (ofBinding?_withConstructors s constructors _ kind).bind fun a a' _ => .ok ⟨a', rfl, trivial⟩
  exact allProperties_alike rfl rfl rfl (fun x _ => hfield x) fun x _ => hderived x

end Schemas

end Schema

namespace Descriptor

/-- The constructor of an immutable bean is the first one that has the types of its slots, or else the
only one that has them under some `Option` layers. The order in which the constructors are declared
makes no difference to the refusal or to the parameters. -/
theorem ofSchema_resolves {s : Schema} (himmutable : s.isMutable = false) (kind : AccessorKind) :
    (∀ types constructors r, Schema.constructorFor constructors types = r ↔
      Schema.Resolution types constructors r) ∧
    (∀ l, s.allProperties kind = .ok l →
      l.slotTypes = s.propertyFields.map (·.1.type) ∧
      ∀ r, Schema.Resolution l.slotTypes s.constructors r →
        (ofSchema s kind).result.map (·.constructor) = r.outcome s.type) ∧
    ∀ constructors, constructors.Perm s.constructors →
      (ofSchema { s with constructors } kind).result.map (·.constructor.params) =
        (ofSchema s kind).result.map (·.constructor.params) := by
  refine ⟨fun types constructors r => Schema.constructorFor_eq_iff, ?_, ?_⟩
  · intro l hl
    have hslots := Schema.slotTypes_of_immutable himmutable hl
    refine ⟨hslots, fun r hr => ?_⟩
    rw [Schema.constructor_ofSchema himmutable hl, ← hslots, hr.constructorFor_eq]
  · intro constructors hperm
    have hparams (d : Except BeanError Descriptor) :
        d.map (·.constructor.params) = (d.map (·.constructor)).map (·.params) := by
      cases d <;> rfl
    have hproperties := Schema.allProperties_withConstructors s constructors kind
    rw [hparams, hparams]
    cases hs : s.allProperties kind with
    | error e =>
      rw [ofSchema_of_refused hs, ofSchema_of_refused (hproperties.error_right hs)]
    | ok l =>
      obtain ⟨l', hs', -⟩ := hproperties.exists_right hs
      rw [Schema.constructor_ofSchema himmutable hs,
        Schema.constructor_ofSchema (s := { s with constructors }) himmutable hs']
      exact Schema.constructorFor_perm hperm s.type

def entrance (params : List Ty) : Constructor where
  params
  invoke := BuildRule.invoke (.row waypoint.type (params.zipIdx.map fun x => .nullable x.1 x.2) [])

/-- A waypoint with a constructor of the types of its slots, behind two that fit as well and before one
that has a parameter more. -/
def junction : Schema :=
  { waypoint with
    constructors :=
      [entrance [.string, .option (.int .i32)], entrance [.option .string, .int .i32],
        entrance [.string, .int .i32], entrance [.string, .int .i32, .string]] }

/-- The constructor of the types is taken from any place, and without it none of those that fit. -/
theorem junction_resolves :
    junction.isMutable = false ∧
    (ofSchema junction .handle).result.map (·.constructor.params) = .ok [.string, .int .i32] ∧
    (ofSchema { junction with constructors := junction.constructors.reverse } .handle).result.map
      (·.constructor.params) = .ok [.string, .int .i32] ∧
    (ofSchema { junction with constructors := junction.constructors.take 2 } .handle).result.map
      (·.constructor) = .error (.ambiguousConstructor junction.type) := by
  have himmutable : junction.isMutable = false := rfl
  obtain ⟨-, -, hordered⟩ := ofSchema_resolves himmutable .handle
  have hexact : (ofSchema junction .handle).result.map (·.constructor.params) =
      .ok [.string, .int .i32] := rfl
  obtain ⟨-, hresolved, -⟩ :=
    ofSchema_resolves (s := { junction with constructors := junction.constructors.take 2 }) rfl .handle
  refine ⟨himmutable, hexact, (hordered _ (List.reverse_perm _)).trans hexact, ?_⟩
  refine (hresolved _ rfl).2 .ambiguous (.ambiguous ?_ (List.Sublist.refl _).subperm ?_ ?_)
  · decide
  · exact .cons ⟨0, rfl⟩ (.cons ⟨1, rfl⟩ .nil)
  · exact .cons ⟨1, rfl⟩ (.cons ⟨0, rfl⟩ .nil)

end Descriptor

end Beans
