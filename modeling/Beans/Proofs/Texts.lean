import Beans.Proofs.AcceptedLayers
import Beans.Proofs.Run
/-!
# Values from texts

A text is read as a value of the type in which the property is read, less one `Option` layer. The value
is then offered like any other, and the slot may have other layers. As long as these are all that the two
types differ in, a value that was read is never refused: it has at most as many layers as the property is
read in. So a text fails for what the converter says about it, and for nothing else.

All this rests on the converter, whose readers have to give values of the types that they stand for. The
standard ones do, and the converter keeps it as readers of that sort are added.
-/

set_option autoImplicit false

namespace Beans

/-! ### Numbers that are read -/

namespace IntKind

variable {k : IntKind} {base : Nat} {n m : Int} {chars : List Char}

theorem inRange_zero (k : IntKind) : k.InRange 0 := by
  cases k <;> decide

/-- Digits are added away from zero, so the bound on one side holds throughout and the other one is looked
at with each digit. -/
theorem inRange_of_readDigits {negative : Bool} (hn : k.InRange n)
    (hsign : if negative then n ≤ 0 else 0 ≤ n)
    (h : k.readDigits base negative n chars = .ok m) : k.InRange m := by
  have hzero : k.InRange 0 := k.inRange_zero
  induction chars generalizing n with
  | nil =>
    cases h
    exact hn
  | cons c rest ih =>
    rw [readDigits] at h
    split at h
    · cases h
    · next d _ =>
      cases negative with
      | true =>
        have hsmaller : n * base ≤ 0 := Int.mul_nonpos_of_nonpos_of_nonneg hsign (by omega)
        simp only [if_true] at h
        split at h
        · cases h
        · refine ih ?_ ?_ h
          · exact ⟨by omega, by have := hzero.2; omega⟩
          · simp only [if_true]
            omega
      | false =>
        have hgreater : 0 ≤ n * base := Int.mul_nonneg hsign (by omega)
        simp only [Bool.false_eq_true, if_false] at h
        split at h
        · cases h
        · refine ih ?_ ?_ h
          · exact ⟨by have := hzero.1; omega, by omega⟩
          · simp only [Bool.false_eq_true, if_false]
            omega

theorem inRange_of_read {text : String} (h : k.read base text = .ok m) : k.InRange m := by
  have hdigits {negative : Bool} {chars : List Char}
      (h : k.readDigits base negative 0 chars = .ok m) : k.InRange m :=
    inRange_of_readDigits k.inRange_zero (by simp) h
  unfold read at h
  split at h
  · cases h
  · cases h
  · cases h
  · exact hdigits h
  · split at h
    · exact hdigits h
    · cases h
  · exact hdigits h

end IntKind

namespace FloatFormat

variable {f : FloatFormat} {bits : Nat}

theorem ofRatio_le_infinity (f : FloatFormat) (num den : Nat) : f.ofRatio num den ≤ f.infinity := by
  unfold ofRatio
  split
  · exact Nat.zero_le _
  · exact Nat.min_le_left _ _

theorem toFloat_le_infinity (f : FloatFormat) (d : Decimal) : d.toFloat f ≤ f.infinity := by
  unfold Decimal.toFloat
  dsimp only
  split
  · exact Nat.zero_le _
  · split
    · exact Nat.le_refl _
    · exact f.ofRatio_le_infinity _ _

theorem magnitude_lt_signBit {chars : List Char} (h : read.magnitude? f chars = .ok bits) :
    bits < f.signBit := by
  have hinfinity : f.infinity < f.signBit := by cases f <;> decide
  have hnan : f.nan < f.signBit := by cases f <;> decide
  unfold read.magnitude? at h
  split at h
  · cases h
    exact Nat.lt_of_le_of_lt (f.toFloat_le_infinity _) hinfinity
  · dsimp only at h
    split at h
    · cases h
      exact hinfinity
    · split at h
      · cases h
        exact hnan
      · cases h

theorem lt_of_read {text : String} (h : f.read text = .ok bits) : bits < Nat.pow 2 f.width := by
  have hwidth : Nat.pow 2 f.width = f.signBit + f.signBit := by cases f <;> decide
  rw [hwidth]
  unfold read at h
  split at h
  · cases h
  · have := magnitude_lt_signBit h
    omega
  · obtain ⟨magnitude, hread, rfl⟩ := map_eq_ok.mp h
    have := magnitude_lt_signBit hread
    simp only [withSign, if_true]
    omega
  · have := magnitude_lt_signBit h
    omega

end FloatFormat

/-! ### Converters -/

namespace Converter

variable {c : Converter} {type : Ty} {read : TextReader}

def ReadsTyped (c : Converter) : Prop :=
  ∀ type text v, c.read type text = .ok v → v.type = type ∧ v.WellTyped

theorem read_register (c : Converter) (type type' : Ty) (read : TextReader) (text : String) :
    (c.register type read).read type' text = if type = type' then read text else c.read type' text := by
  unfold Converter.read register
  rw [Table.get?_insert]
  by_cases h : type = type'
  · simp only [if_pos h]
  · simp only [if_neg h]

theorem read_of_not_contains (h : c.contains type = false) (text : String) :
    c.read type text = .error (.noConverter type) := by
  have hnone : c.readers.get? type = none := by simpa [contains, Table.contains] using h
  rw [Converter.read, hnone]

theorem empty_readsTyped : empty.ReadsTyped := by
  intro type text v h
  cases h

theorem ReadsTyped.register (hc : c.ReadsTyped)
    (hread : ∀ text v, read text = .ok v → v.type = type ∧ v.WellTyped) :
    (c.register type read).ReadsTyped := by
  intro type' text v h
  rw [read_register] at h
  split at h
  · next hsame =>
    rw [← hsame]
    exact hread text v h
  · exact hc type' text v h

theorem readScalar_typed (s : Scalar) {text : String} {v : Value} (h : readScalar s text = .ok v) :
    v.type = .scalar s ∧ v.WellTyped := by
  cases s with
  | bool =>
    simp only [readScalar] at h
    split at h
    · cases h
      exact ⟨rfl, trivial⟩
    · cases h
      exact ⟨rfl, trivial⟩
    · cases h
  | char =>
    simp only [readScalar] at h
    split at h
    · cases h
      exact ⟨rfl, trivial⟩
    · cases h
  | int k =>
    obtain ⟨n, hn, rfl⟩ := map_eq_ok.mp (mapError_eq_ok.mp h)
    exact ⟨rfl, IntKind.inRange_of_read hn⟩
  | float f =>
    obtain ⟨bits, hbits, rfl⟩ := map_eq_ok.mp (mapError_eq_ok.mp h)
    exact ⟨rfl, FloatFormat.lt_of_read hbits⟩
  | string =>
    cases h
    exact ⟨rfl, trivial⟩

theorem standard_readsTyped : standard.ReadsTyped := by
  have hfold (l : List Scalar) : ∀ c : Converter, c.ReadsTyped →
      (l.foldl (fun c s => c.register (.scalar s) (readScalar s)) c).ReadsTyped := by
    induction l with
    | nil => exact fun _ hc => hc
    | cons s rest ih => exact fun c hc => ih _ (hc.register fun _ _ => readScalar_typed s)
  exact hfold _ _ empty_readsTyped

end Converter

/-! ### Properties and builders -/

theorem Ty.unwrapped_layered {x : Ty} (hx : x.isOption = false) (n : Nat) :
    (x.layered n).unwrapped = x.layered (n - 1) := by
  cases n with
  | zero =>
    cases x with
    | option item => cases hx
    | _ => rfl
  | succ n => rfl

namespace Property

variable {p : Property}

/-- A value of the type that texts are read in is accepted, whatever it is. -/
theorem Layered.exists_accept {x : Ty} {shown slot : Nat} (h : p.Layered x shown slot) {v : Value}
    (htype : v.type = p.type.unwrapped) (hv : v.WellTyped) : ∃ w, p.accept v = .ok w := by
  rw [h.type, Ty.unwrapped_layered h.innermost] at htype
  have hle : shown - 1 ≤ max shown (slot + 1) := by omega
  exact ⟨_, h.accept_eq hv htype hle⟩

end Property

namespace Builder

variable {b : Builder} {p : Property} {slot : Nat} {name : String}

/-- Setting a property from a text is reading the text and setting the value. -/
structure SetsText (b : Builder) (name text : String) (p : Property) : Prop where
  property : p.name = name
  sets : ∀ v, b.descriptor.converter.converter.read p.type.unwrapped text = .ok v →
    ∃ b', b.set name (some v) = .ok b' ∧ b.setText name text = .ok b' ∧
      b.call (.setText name text) = (.done, b')
  refuses : ∀ e, b.descriptor.converter.converter.read p.type.unwrapped text = .error e →
    let error := BeanError.unreadableText name text p.type.unwrapped e
    b.setText name text = .error error ∧ b.call (.setText name text) = (.refused error, b)
  unknown : b.descriptor.converter.converter.contains p.type.unwrapped = false →
    b.setText name text =
      .error (.unreadableText name text p.type.unwrapped (.noConverter p.type.unwrapped))
  kind : ∀ e, b.setText name text = .error e → e.kind = "ParseError"

theorem setsText_of_innermost (hreads : b.descriptor.converter.converter.ReadsTyped)
    (hp : b.buildable name = .ok (p, slot)) (hinnermost : p.type.innermost = p.slotType.innermost)
    (text : String) : b.SetsText name text p := by
  obtain ⟨hfind, -, -⟩ := buildable_eq_ok.mp hp
  have hlayered := Property.layered_of_innermost hinnermost
  have hname : p.name = name := (Descriptor.of_find? hfind).2
  have hsets (v : Value) (hread : b.descriptor.converter.converter.read p.type.unwrapped text = .ok v) :
      ∃ b', b.set name (some v) = .ok b' ∧ b.setText name text = .ok b' := by
    obtain ⟨htype, hv⟩ := hreads _ _ _ hread
    obtain ⟨w, hw⟩ := hlayered.exists_accept htype hv
    have haccept : p.accept? (some v) = .ok w := hw
    have hset := set_eq_ok.mpr ⟨p, slot, w, hp, haccept, rfl⟩
    refine ⟨_, hset, ?_⟩
    rw [setText, hp]
    simp only [bind, Except.bind, hread]
    exact hset
  have hrefuses (e : TextError)
      (hread : b.descriptor.converter.converter.read p.type.unwrapped text = .error e) :
      b.setText name text = .error (.unreadableText name text p.type.unwrapped e) := by
    rw [setText, hp]
    simp only [bind, Except.bind, hread, hname]
  constructor
  case property => exact hname
  case sets =>
    intro v hread
    obtain ⟨b', hset, htext⟩ := hsets v hread
    refine ⟨b', hset, htext, ?_⟩
    rw [call, htext]
    rfl
  case refuses =>
    intro e hread
    refine ⟨hrefuses e hread, ?_⟩
    rw [call, hrefuses e hread]
    rfl
  case unknown =>
    intro hcontains
    exact hrefuses _ (Converter.read_of_not_contains hcontains text)
  case kind =>
    intro e he
    cases hread : b.descriptor.converter.converter.read p.type.unwrapped text with
    | ok v =>
      obtain ⟨b', -, htext⟩ := hsets v hread
      cases he.symm.trans htext
    | error e' =>
      cases he.symm.trans (hrefuses e' hread)
      rfl

/-- In any state of a builder, a text that the converter reads sets what setting the value sets, and one
that it does not read is refused with the converter's own error. The builders of declared beans are among
those for which this holds. -/
theorem setText_agrees (text : String) :
    (∀ b : Builder, b.descriptor.converter.converter.ReadsTyped →
      (∀ q ∈ b.descriptor.properties, q.type.innermost = q.slotType.innermost) →
      ∀ name p slot, b.buildable name = .ok (p, slot) → b.SetsText name text p) ∧
    ∀ (d : ResolvedDeclaration) (home : String) (defaults : List (Option Value)) (kind : AccessorKind)
      (D : Descriptor), (Descriptor.ofSchema (d.schemaWith home defaults) kind).result = .ok D →
      ∀ converter : ConverterChoice, converter.converter.ReadsTyped →
      ∀ calls name p slot, let b := ({ D with converter }.builder.run calls).2
        b.buildable name = .ok (p, slot) → b.SetsText name text p := by
  constructor
  · intro b hreads hlayers name p slot hp
    obtain ⟨hfind, -, -⟩ := buildable_eq_ok.mp hp
    exact setsText_of_innermost hreads hp (hlayers p (Descriptor.of_find? hfind).1) text
  · intro d home defaults kind D hD converter hreads calls name p slot b hp
    obtain ⟨hfind, -, -⟩ := buildable_eq_ok.mp hp
    have hdescriptor : b.descriptor = { D with converter } := descriptor_run _ calls
    rw [hdescriptor] at hfind
    have hshows := BeanDeclaration.showsSlot_of_ofSchema hD (Descriptor.of_find? hfind).1
    refine setsText_of_innermost ?_ hp hshows.innermost_eq text
    rw [hdescriptor]
    exact hreads

/-- A label is read in a layer and set without it. The standard converter reads its text, and the empty
one has no reader for it. -/
theorem waypoint_setText :
    ∃ d p, (Descriptor.ofSchema Descriptor.waypoint .handle).result = .ok d ∧
      d.builder.buildable "label" = .ok (p, 0) ∧ p.type = .option .string ∧ p.slotType = .string ∧
      d.builder.SetsText "label" "north" p ∧
      { d with converter := .own .empty }.builder.SetsText "label" "north" p ∧
      (∃ b', d.builder.set "label" (some (.ofString "north")) = .ok b' ∧
        d.builder.setText "label" "north" = .ok b') ∧
      { d with converter := .own .empty }.builder.setText "label" "north" =
        .error (.unreadableText "label" "north" .string (.noConverter .string)) := by
  refine ⟨_, _, rfl, rfl, rfl, rfl, ?_, ?_, ⟨_, rfl, rfl⟩, rfl⟩
  · apply (setText_agrees "north").1
    · exact Converter.standard_readsTyped
    · decide
    · rfl
  · apply (setText_agrees "north").1
    · exact Converter.empty_readsTyped
    · decide
    · rfl

end Builder

end Beans
