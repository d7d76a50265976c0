import Beans.Proofs.Words
/-!
# Paths of packages

Under which path a package of the family is found depends on the keys of two tables, however these are
spelled: below a header of their own, with a header or a dotted key for each key, or by a header or a key
that goes deeper. A table in braces is a value and no table, and its keys do not count.
-/

set_option autoImplicit false

namespace Beans.Manifest

open Declaration Token TokenReader

/-! ### Texts of paths -/

variable {package name : String}

theorem textIn_eq_ok {p : TokenReader PathForm} {text written : String} {tokens : List Token}
    {form : PathForm} (htokens : ofText? text = some tokens)
    (h : p.read { rest := tokens } = .ok (form, { rest := [], written }))
    (hblank : ∀ c ∈ written.toList, isBlank c = false) : textIn p text = .ok written := by
  unfold textIn
  rw [htokens, Option.map_some, whole_textOf h, compact_eq_self hblank]

theorem textIn_eq_error {p : TokenReader PathForm} {text : String}
    (h : ∀ tokens, ofText? text = some tokens → ∃ e, p.read { rest := tokens } = .error e) :
    textIn p text = .error ⟨text⟩ := by
  unfold textIn
  cases htokens : ofText? text with
  | none => rfl
  | some tokens =>
    obtain ⟨e, he⟩ := h tokens htokens
    rw [Option.map_some, whole_textOf_error he]

theorem isPathWord_family (short : String) : isPathWord ("bean_" ++ short) := by
  have hchars : ("bean_" ++ short).toList = "bean_".toList ++ short.toList := String.toList_append
  have hkeywords : ∀ k ∈ keywords, ¬ "bean_".toList <+: k.toList := by decide
  have hkeyword : ¬ keywords.contains ("bean_" ++ short) := by
    rw [List.contains_iff_mem]
    intro hmem
    exact hkeywords _ hmem (hchars ▸ List.prefix_append _ _)
  unfold isPathWord
  rw [hchars, Bool.eq_false_iff.mpr hkeyword]
  rfl

theorem rootPath_eq (hchars : ∀ c ∈ package.toList, Text.isIdentPart c) (h : isPathWord package) :
    rootPath package = .ok ("::" ++ package) := by
  have hstart := (Bool.and_eq_true_iff.mp h).1
  have hread := read_rooted (g := .nested 2999) h
  refine textIn_eq_ok (ofText?_rooted hchars hstart) hread ?_
  intro c hc
  rw [String.toList_append, List.mem_append] at hc
  rcases hc with hc | hc
  · have hcolons : "::".toList.all (isBlank · = false) := by decide
    exact of_decide_eq_true (List.all_eq_true.mp hcolons c hc)
  · exact isBlank_eq_false (hchars c hc)

/-- A text that is no word of a path has no tokens, or starts with a number, or is a keyword. -/
theorem read_segment_of_not_isPathWord {g : Grammar} (hchars : ∀ c ∈ name.toList, Text.isIdentPart c)
    (h : ¬ isPathWord name) {tokens : List Token} (htokens : ofText? name = some tokens) :
    ∃ e, (g.segment false).read { rest := tokens } = .error e := by
  by_cases hstart : name.toList.head?.any Text.isIdentStart
  · rw [ofText?_word hchars hstart] at htokens
    cases htokens
    obtain ⟨hkeyword, hplace⟩ : name ∈ keywords ∧ name ∉ pathKeywords := by
      simpa [isPathWord, hstart] using h
    apply read_segment_error
    · intro k hk hword
      exact hplace (of_decide_eq_true hword ▸ hk)
    · intro hname
      have hname : !keywords.contains name := hname
      simp [hkeyword] at hname
  · rcases literal_of_ofText? hchars hstart htokens with rfl | ⟨kind, text, more, rfl⟩
    · exact ⟨_, rfl⟩
    · apply read_segment_error
      · intro k _ hword
        cases hword
      · intro hname
        cases hname

theorem modulePath_eq (hchars : ∀ c ∈ name.toList, Text.isIdentPart c) :
    modulePath package name =
      if isPathWord name then .ok ("::" ++ package ++ "::" ++ name) else .error ⟨name⟩ := by
  have hword : textIn (return { segments := [← grammar.segment false] }) name =
      if isPathWord name then .ok name else .error ⟨name⟩ := by
    by_cases h : isPathWord name
    · have hstart := (Bool.and_eq_true_iff.mp h).1
      rw [if_pos h]
      refine textIn_eq_ok (ofText?_word hchars hstart)
        ((read_bind (read_segment h "") _).trans (read_pure _ _)) ?_
      intro c hc
      exact isBlank_eq_false (hchars c hc)
    · rw [if_neg h]
      apply textIn_eq_error
      intro tokens htokens
      obtain ⟨e, he⟩ := read_segment_of_not_isPathWord hchars h htokens
      exact ⟨e, read_bind_error he _⟩
  unfold modulePath
  dsimp only
  rw [hword]
  split <;> rfl

/-! ### What sections spell -/

/-- The place of a section. Headers stand for themselves, lines stand below the header in force. -/
def place? (header : List String) (s : ManifestSection) : Option (List String) :=
  (parts? s.name).map fun parts =>
    match s.form with
    | .table | .subtables | .array => parts
    | .dotted | .inline | .text => header ++ parts

/-- The header that is in force behind some sections. -/
def headerBehind (header : List String) (sections : List ManifestSection) : List String :=
  sections.foldl (fun header s => (entriesOf header s).header) header

/-- A section spells that a table has a key. -/
inductive Spells (header : List String) (s : ManifestSection) (table key : String) : Prop
  /-- The section is the table. -/
  | inside (hplace : place? header s = some [table])
      (hform : s.form ∈ [SectionForm.table, .subtables, .dotted, .inline])
      (hkey : key ∈ s.keys.map quotedKey)
  /-- The section stands at the key or below it. -/
  | below (rest : List String) (hplace : place? header s = some (table :: key :: rest))
      (hkeys : s.form ∈ [SectionForm.subtables, .dotted] → s.keys ≠ [])

/-- A section is something else than a table. -/
def SpellsValue (header : List String) (s : ManifestSection) (table : String) : Prop :=
  place? header s = some [table] ∧ s.form ∈ [SectionForm.inline, .text, .array]

/-- A table has a key, in whatever form. -/
def Declares (m : Manifest) (table key : String) : Prop :=
  ∃ before s after, m.sections = before ++ s :: after ∧ Spells (headerBehind [] before) s table key

/-- What has the name of a table is something else. -/
def IsValue (m : Manifest) (table : String) : Prop :=
  ∃ before s after, m.sections = before ++ s :: after ∧ SpellsValue (headerBehind [] before) s table

variable {m : Manifest} {header : List String} {s : ManifestSection} {table key : String}

/-! ### Entries of sections -/

theorem keyParts?_ne_nil {n : Nat} {chars : List Char} : keyParts? n chars ≠ some [] := by
  intro h
  cases n with
  | zero => cases h
  | succ n =>
    unfold keyParts? at h
    obtain ⟨r, -, h⟩ := Option.bind_eq_some_iff.mp h
    dsimp only at h
    split at h
    · cases h
    · obtain ⟨parts, -, h⟩ := Option.bind_eq_some_iff.mp h
      cases h
    · cases h

theorem place?_ne_nil : place? header s ≠ some [] := by
  intro h
  obtain ⟨parts, hparts, h⟩ := Option.map_eq_some_iff.mp h
  have hnil : parts = [] := by
    split at h
    · exact h
    · exact h
    · exact h
    · exact (List.append_eq_nil_iff.mp h).2
    · exact (List.append_eq_nil_iff.mp h).2
    · exact (List.append_eq_nil_iff.mp h).2
  exact keyParts?_ne_nil (hnil ▸ hparts)

/-- What a section enters at its place. -/
def kindAt : SectionForm → Option EntryKind
  | .table => some .table
  | .array => some .element
  | .inline | .text => some .value
  | .subtables | .dotted => none

/-- What a section enters for each key behind its place. -/
def kindBehind : SectionForm → Option EntryKind
  | .subtables => some .table
  | .table | .array | .dotted => some .value
  | .inline | .text => none

theorem mem_entriesOf {e : ManifestEntry} :
    e ∈ (entriesOf header s).entries ↔ ∃ place, place? header s = some place ∧
      (e.path = place ∧ kindAt s.form = some e.kind ∨
        ∃ k ∈ s.keys, e.path = place ++ [quotedKey k] ∧ kindBehind s.form = some e.kind) := by
  obtain ⟨path, kind⟩ := e
  unfold entriesOf place?
  cases parts? s.name with
  | none => simp
  | some parts => cases hform : s.form <;> simp [kindAt, kindBehind, eq_comm]

theorem append_singleton_cases {place rest : List String} {k first : String}
    (h : place ++ [k] = first :: rest) :
    place = [] ∨ place = [first] ∧ rest = [k] ∨
      ∃ second more, place = first :: second :: more ∧ rest = second :: more ++ [k] := by
  rcases place with _ | ⟨_, _ | ⟨second, more⟩⟩
  · exact .inl rfl
  · cases h
    exact .inr (.inl ⟨rfl, rfl⟩)
  · cases h
    exact .inr (.inr ⟨second, more, rfl, rfl⟩)

theorem exists_value_iff :
    (∃ e ∈ (entriesOf header s).entries, e.path = [table] ∧ e.kind ≠ .table) ↔
      SpellsValue header s table := by
  constructor
  · rintro ⟨e, he, hpath, hkind⟩
    obtain ⟨place, hplace, ⟨rfl, hform⟩ | ⟨k, -, hkey, -⟩⟩ := mem_entriesOf.mp he
    · refine ⟨hpath ▸ hplace, ?_⟩
      cases hs : s.form <;> simp_all [kindAt]
    · rcases append_singleton_cases (hkey.symm.trans hpath) with rfl | ⟨-, h⟩ | ⟨_, _, -, h⟩
      · exact absurd hplace place?_ne_nil
      · cases h
      · cases h
  · rintro ⟨hplace, hform⟩
    obtain ⟨kind, hkind, hform⟩ : ∃ kind, kind ≠ .table ∧ kindAt s.form = some kind := by
      cases hs : s.form <;> simp_all [kindAt]
    exact ⟨⟨[table], kind⟩, mem_entriesOf.mpr ⟨_, hplace, .inl ⟨rfl, hform⟩⟩, rfl, hkind⟩

/-- The entries of a section tell the keys that it spells, unless it is something else than a table. -/
theorem exists_key_iff (h : ¬ SpellsValue header s table) :
    (∃ e ∈ (entriesOf header s).entries, ∃ rest, e.path = table :: key :: rest) ↔
      Spells header s table key := by
  constructor
  · rintro ⟨e, he, rest, hpath⟩
    obtain ⟨place, hplace, ⟨rfl, hform⟩ | ⟨k, hk, hkey, hform⟩⟩ := mem_entriesOf.mp he
    · -- the section is entered at its own place, so it is of a form that needs no keys
      refine .below rest (hpath ▸ hplace) fun hkeys => ?_
      cases hs : s.form <;> simp_all [kindAt]
    · rcases append_singleton_cases (hkey.symm.trans hpath) with
        rfl | ⟨rfl, h'⟩ | ⟨_, more, rfl, h'⟩
      · exact absurd hplace place?_ne_nil
      · cases h'
        refine .inside hplace ?_ (List.mem_map_of_mem hk)
        have harray : s.form ≠ .array := fun hs => h ⟨hplace, by simp [hs]⟩
        cases hs : s.form <;> simp_all [kindBehind]
      · cases h'
        exact .below more hplace fun _ => List.ne_nil_of_mem hk
  · intro hspells
    cases hspells with
    | inside hplace hform hkey =>
      obtain ⟨k, hk, rfl⟩ := List.mem_map.mp hkey
      have hinline : s.form ≠ .inline := fun hs => h ⟨hplace, by simp [hs]⟩
      obtain ⟨kind, hkind⟩ : ∃ kind, kindBehind s.form = some kind := by
        cases hs : s.form <;> simp_all [kindBehind]
      have he : ⟨[table, quotedKey k], kind⟩ ∈ (entriesOf header s).entries :=
        mem_entriesOf.mpr ⟨_, hplace, .inr ⟨k, hk, rfl, hkind⟩⟩
      exact ⟨_, he, [], rfl⟩
    | below rest hplace hkeys =>
      cases hat : kindAt s.form with
      | some kind =>
        have he : ⟨table :: key :: rest, kind⟩ ∈ (entriesOf header s).entries :=
          mem_entriesOf.mpr ⟨_, hplace, .inl ⟨rfl, hat⟩⟩
        exact ⟨_, he, rest, rfl⟩
      | none =>
        have hforms : s.form ∈ [SectionForm.subtables, .dotted] := by
          cases hs : s.form <;> simp_all [kindAt]
        obtain ⟨kind, hkind⟩ : ∃ kind, kindBehind s.form = some kind := by
          cases hs : s.form <;> simp_all [kindBehind]
        obtain ⟨k, hk⟩ := List.exists_mem_of_ne_nil _ (hkeys hforms)
        have he : ⟨table :: key :: rest ++ [quotedKey k], kind⟩ ∈ (entriesOf header s).entries :=
          mem_entriesOf.mpr ⟨_, hplace, .inr ⟨k, hk, rfl, hkind⟩⟩
        exact ⟨_, he, rest ++ [quotedKey k], rfl⟩

/-! ### Keys of tables -/

theorem mem_entriesFrom {e : ManifestEntry} {sections : List ManifestSection} :
    e ∈ entriesFrom header sections ↔ ∃ before s after, sections = before ++ s :: after ∧
      e ∈ (entriesOf (headerBehind header before) s).entries := by
  induction sections generalizing header with
  | nil => simp [entriesFrom]
  | cons first rest ih =>
    simp only [entriesFrom, List.mem_append, ih]
    constructor
    · rintro (h | ⟨before, s, after, rfl, h⟩)
      · exact ⟨[], first, rest, rfl, h⟩
      · exact ⟨first :: before, s, after, rfl, h⟩
    · rintro ⟨before, s, after, hsections, h⟩
      cases before with
      | nil =>
        cases hsections
        exact .inl h
      | cons _ before =>
        cases hsections
        exact .inr ⟨before, s, after, rfl, h⟩

theorem exists_entry_iff {p : ManifestEntry → Prop} :
    (∃ e ∈ m.entries, p e) ↔ ∃ before s after, m.sections = before ++ s :: after ∧
      ∃ e ∈ (entriesOf (headerBehind [] before) s).entries, p e := by
  constructor
  · rintro ⟨e, he, hp⟩
    obtain ⟨before, s, after, hsections, he⟩ := mem_entriesFrom.mp he
    exact ⟨before, s, after, hsections, e, he, hp⟩
  · rintro ⟨before, s, after, hsections, e, he, hp⟩
    exact ⟨e, mem_entriesFrom.mpr ⟨before, s, after, hsections, he⟩, hp⟩

def Lists (m : Manifest) (table key : String) : Prop :=
  m.Declares table key ∧ ¬ m.IsValue table

theorem isValue_iff :
    m.IsValue table ↔ m.entries.any fun e => e.path = [table] && e.kind ≠ .table := by
  have hentry : m.IsValue table ↔ ∃ e ∈ m.entries, e.path = [table] ∧ e.kind ≠ .table := by
    rw [exists_entry_iff]
    simp only [exists_value_iff]
    rfl
  rw [hentry]
  simp

theorem exists_key_entry_iff (h : ¬ m.IsValue table) :
    (∃ e ∈ m.entries, ∃ rest, e.path = table :: key :: rest) ↔ m.Declares table key := by
  have hvalue {before : List ManifestSection} {s : ManifestSection} {after : List ManifestSection}
      (hsections : m.sections = before ++ s :: after) :
      ¬ SpellsValue (headerBehind [] before) s table :=
    fun hvalue => h ⟨before, s, after, hsections, hvalue⟩
  rw [exists_entry_iff]
  constructor
  · rintro ⟨before, s, after, hsections, hkey⟩
    exact ⟨before, s, after, hsections, (exists_key_iff (hvalue hsections)).mp hkey⟩
  · rintro ⟨before, s, after, hsections, hkey⟩
    exact ⟨before, s, after, hsections, (exists_key_iff (hvalue hsections)).mpr hkey⟩

theorem mem_keys : key ∈ m.keys table ↔ m.Lists table key := by
  by_cases hvalue : m.IsValue table
  · rw [keys, if_pos (isValue_iff.mp hvalue)]
    simp [Lists, hvalue]
  · rw [keys, if_neg (mt isValue_iff.mpr hvalue), List.mem_filterMap, Lists,
      ← exists_key_entry_iff hvalue]
    constructor
    · rintro ⟨e, he, h⟩
      split at h
      · next name k rest hpath =>
        split at h
        · next hname =>
          cases h
          exact ⟨⟨e, he, rest, hname ▸ hpath⟩, hvalue⟩
        · cases h
      · cases h
    · rintro ⟨⟨e, he, rest, hpath⟩, -⟩
      refine ⟨e, he, ?_⟩
      rw [hpath]
      exact if_pos rfl

/-! ### Where a package is found -/

/-- Where a package of the family is found: at the root, or as a module of another package. -/
inductive Found where
  | itself
  | within (gatherer : String)

/-- What the keys of a table lead to. -/
inductive Leads (has : String → Prop) (short : String) : Found → Prop
  | itself (h : has ("bean_" ++ short)) : Leads has short .itself
  | core (h : ¬ has ("bean_" ++ short)) (hcore : has "bean_core") :
      Leads has short (.within "bean_core")
  | beans (h : ¬ has ("bean_" ++ short)) (hcore : ¬ has "bean_core") (hbeans : has "beans") :
      Leads has short (.within "beans")

/-- What the keys of the tables lead to: ordinary dependencies come before those for development, and
if none leads anywhere, the package is at the root. -/
inductive Resolves (has : String → String → Prop) (short : String) : Found → Prop
  | ordinary {found : Found} (h : Leads (has "dependencies") short found) :
      Resolves has short found
  | development {found : Found} (hordinary : ∀ found, ¬ Leads (has "dependencies") short found)
      (h : Leads (has "dev-dependencies") short found) : Resolves has short found
  | root (hordinary : ∀ found, ¬ Leads (has "dependencies") short found)
      (hdevelopment : ∀ found, ¬ Leads (has "dev-dependencies") short found) :
      Resolves has short .itself

variable {short : String}

theorem Leads.unique {has : String → Prop} {found found' : Found} (h : Leads has short found)
    (h' : Leads has short found') : found = found' := by
  cases h <;> cases h' <;> first | rfl | contradiction

theorem Resolves.unique {has : String → String → Prop} {found found' : Found}
    (h : Resolves has short found) (h' : Resolves has short found') : found = found' := by
  cases h with
  | ordinary h =>
    cases h' with
    | ordinary h' => exact h.unique h'
    | development hordinary => exact absurd h (hordinary _)
    | root hordinary => exact absurd h (hordinary _)
  | development hordinary h =>
    cases h' with
    | ordinary h' => exact absurd h' (hordinary _)
    | development _ h' => exact h.unique h'
    | root _ hdevelopment => exact absurd h (hdevelopment _)
  | root hordinary hdevelopment =>
    cases h' with
    | ordinary h' => exact absurd h' (hordinary _)
    | development _ h' => exact absurd h' (hdevelopment _)
    | root => rfl

theorem Resolves.congr {has has' : String → String → Prop} {found : Found}
    (h : Resolves has short found)
    (hsame : ∀ table ∈ dependencyTables, ∀ key, has table key ↔ has' table key) :
    Resolves has' short found := by
  have htable {table : String} (hmem : table ∈ dependencyTables) : has table = has' table := by
    funext key
    exact propext (hsame table hmem key)
  have hordinary : has "dependencies" = has' "dependencies" := htable (by decide)
  have hdevelopment : has "dev-dependencies" = has' "dev-dependencies" := htable (by decide)
  cases h with
  | ordinary h => exact .ordinary (hordinary ▸ h)
  | development hnone h => exact .development (hordinary ▸ hnone) (hdevelopment ▸ h)
  | root hnone hnone' => exact .root (hordinary ▸ hnone) (hdevelopment ▸ hnone')

def Found.path (short : String) : Found → Except InvalidPath String
  | itself => .ok ("::bean_" ++ short)
  | within gatherer =>
    if isPathWord short then .ok ("::" ++ gatherer ++ "::" ++ short) else .error ⟨short⟩

theorem familyModule?_family (short : String) : familyModule? ("bean_" ++ short) = some short := by
  have hchars : ("bean_" ++ short).toList = "bean_".toList ++ short.toList := String.toList_append
  unfold familyModule?
  rw [hchars]
  exact congrArg some String.ofList_toList

theorem rootPath_family (h : ∀ c ∈ short.toList, Text.isIdentPart c) :
    rootPath ("bean_" ++ short) = Found.itself.path short := by
  have hchars : ∀ c ∈ ("bean_" ++ short).toList, Text.isIdentPart c := by
    intro c hc
    rw [String.toList_append, List.mem_append] at hc
    rcases hc with hc | hc
    · have hfamily : "bean_".toList.all Text.isIdentPart := by decide
      exact List.all_eq_true.mp hfamily c hc
    · exact h c hc
  rw [rootPath_eq hchars (isPathWord_family short), ← String.append_assoc]
  rfl

theorem pathIn?_family (keys : List String) (h : ∀ c ∈ short.toList, Text.isIdentPart c) :
    (∃ found, Leads (· ∈ keys) short found ∧
        pathIn? keys ("bean_" ++ short) = some (found.path short)) ∨
      (∀ found, ¬ Leads (· ∈ keys) short found) ∧ pathIn? keys ("bean_" ++ short) = none := by
  unfold pathIn?
  rw [familyModule?_family, rootPath_family h]
  by_cases hitself : "bean_" ++ short ∈ keys
  · exact .inl ⟨.itself, .itself hitself, by simp [hitself]⟩
  · by_cases hcore : "bean_core" ∈ keys
    · refine .inl ⟨.within "bean_core", .core hitself hcore, ?_⟩
      simp [hitself, gatherers, hcore, modulePath_eq h, Found.path]
    · by_cases hbeans : "beans" ∈ keys
      · refine .inl ⟨.within "beans", .beans hitself hcore hbeans, ?_⟩
        simp [hitself, gatherers, hcore, hbeans, modulePath_eq h, Found.path]
      · refine .inr ⟨?_, by simp [hitself, gatherers, hcore, hbeans]⟩
        intro found hleads
        cases hleads <;> contradiction

theorem exists_resolves (m : Manifest) (h : ∀ c ∈ short.toList, Text.isIdentPart c) :
    ∃ found, Resolves m.Lists short found ∧ m.pathOf ("bean_" ++ short) = found.path short := by
  have hkeys (table : String) : (· ∈ m.keys table) = m.Lists table := by
    funext key
    exact propext mem_keys
  have hordinary := pathIn?_family (m.keys "dependencies") h
  have hdevelopment := pathIn?_family (m.keys "dev-dependencies") h
  rw [hkeys] at hordinary hdevelopment
  unfold pathOf dependencyTables
  rw [rootPath_family h]
  rcases hordinary with ⟨found, hleads, hpath⟩ | ⟨hnone, hpath⟩
  · exact ⟨found, .ordinary hleads, by simp [hpath]⟩
  · rcases hdevelopment with ⟨found, hleads, hpath'⟩ | ⟨hnone', hpath'⟩
    · exact ⟨found, .development hnone hleads, by simp [hpath, hpath']⟩
    · exact ⟨.itself, .root hnone hnone', by simp [hpath, hpath']⟩

theorem pathIn?_congr {keys keys' : List String} (h : ∀ key, key ∈ keys ↔ key ∈ keys')
    (package : String) : pathIn? keys package = pathIn? keys' package := by
  have hcontains : keys.contains = keys'.contains := by
    funext key
    rw [Bool.eq_iff_iff, List.contains_iff_mem, List.contains_iff_mem]
    exact h key
  unfold pathIn?
  rw [hcontains]

/-- A package is found where the keys of the tables of dependencies lead to, ordinary ones first, and else
at the root. A table has the keys that are spelled in any form, but if it is written as a value, it has
none. Nothing else of the manifest counts. -/
theorem pathOf_resolves (m : Manifest) :
    (∀ short, (∀ c ∈ short.toList, Text.isIdentPart c) →
      ∃ found, Resolves m.Lists short found ∧
        (∀ found', Resolves m.Lists short found' → found' = found) ∧
        ((∀ table ∈ dependencyTables, ¬ m.IsValue table) → Resolves m.Declares short found) ∧
        m.pathOf ("bean_" ++ short) = found.path short) ∧
    ∀ m' : Manifest,
      (∀ table ∈ dependencyTables, ∀ key, m.Lists table key ↔ m'.Lists table key) →
        ∀ package, m.pathOf package = m'.pathOf package := by
  constructor
  · intro short h
    obtain ⟨found, hresolves, hpath⟩ := exists_resolves m h
    refine ⟨found, hresolves, fun found' h' => h'.unique hresolves, ?_, hpath⟩
    intro hvalue
    apply hresolves.congr
    intro table htable key
    exact and_iff_left (hvalue table htable)
  · intro m' h package
    have hkeys {table : String} (htable : table ∈ dependencyTables) :
        pathIn? (m.keys table) package = pathIn? (m'.keys table) package := by
      apply pathIn?_congr
      intro key
      rw [mem_keys, mem_keys]
      exact h table htable key
    unfold pathOf
    simp only [dependencyTables, List.findSome?_cons, List.findSome?_nil,
      hkeys (show "dependencies" ∈ dependencyTables by decide),
      hkeys (show "dev-dependencies" ∈ dependencyTables by decide)]

/-- Two spellings of the same tables: dotted keys and a header for each key, and headers behind another
table, of which two go deeper. -/
theorem pathOf_spellings :
    let apart : Manifest := ⟨[⟨"dev-dependencies", .dotted, ["beans", "bean_core"]⟩,
      ⟨"dependencies", .subtables, ["serde", "beans"]⟩]⟩
    let together : Manifest := ⟨[⟨"package", .table, ["name"]⟩,
      ⟨"dependencies", .table, ["beans", "serde"]⟩, ⟨"dev-dependencies.bean_core", .table, ["path"]⟩,
      ⟨"dev-dependencies.beans", .table, []⟩]⟩
    apart.pathOf "bean_meta" = (Found.within "beans").path "meta" ∧
      together.pathOf "bean_meta" = (Found.within "beans").path "meta" := by
  intro apart together
  have hbeans (table key : String) : apart.Lists table key ↔ key ∈ apart.keys table := mem_keys.symm
  have hresolves : Resolves apart.Lists "meta" (.within "beans") := by
    apply Resolves.ordinary
    apply Leads.beans <;> rw [hbeans] <;> decide
  have hsame : ∀ table ∈ dependencyTables, ∀ key,
      apart.Lists table key ↔ together.Lists table key := by
    intro table htable key
    rw [← mem_keys, ← mem_keys]
    have hordinary : apart.keys "dependencies" = ["serde", "beans"] ∧
        together.keys "dependencies" = ["beans", "serde"] := by decide
    have hdevelopment : apart.keys "dev-dependencies" = ["beans", "bean_core"] ∧
        together.keys "dev-dependencies" = ["bean_core", "bean_core", "beans"] := by decide
    simp only [dependencyTables, List.mem_cons, List.not_mem_nil, or_false] at htable
    rcases htable with rfl | rfl
    · rw [hordinary.1, hordinary.2]
      simp [or_comm]
    · rw [hdevelopment.1, hdevelopment.2]
      simp [or_comm]
  obtain ⟨hpath, hcongr⟩ := pathOf_resolves apart
  obtain ⟨found, -, hunique, -, hapart⟩ := hpath "meta" (List.all_eq_true.mp (by decide))
  obtain rfl := hunique _ hresolves
  exact ⟨hapart, (hcongr together hsame "bean_meta").symm.trans hapart⟩

/-- The keys of a table in braces do not count, though it has them. -/
theorem inline_not_found :
    let m : Manifest := ⟨[⟨"dependencies", .inline, ["bean_core"]⟩]⟩
    Resolves m.Declares "meta" (.within "bean_core") ∧
      (Found.within "bean_core").path "meta" = .ok "::bean_core::meta" ∧
      m.pathOf "bean_meta" = .ok "::bean_meta" := by
  intro m
  have hkey : ¬ m.Declares "dependencies" "bean_meta" := by
    rintro ⟨before, s, after, hsections, hspells⟩
    obtain ⟨rfl, rfl⟩ : before = [] ∧ s = ⟨"dependencies", .inline, ["bean_core"]⟩ := by
      cases before <;> simp_all [m]
    cases hspells with
    | inside _ _ hkey => revert hkey; decide
    | below rest hplace _ => cases hplace
  have hcore : m.Declares "dependencies" "bean_core" :=
    ⟨[], _, [], rfl, .inside (by decide) (by decide) (by decide)⟩
  exact ⟨.ordinary (.core hkey hcore), by decide, by decide +kernel⟩

end Beans.Manifest
