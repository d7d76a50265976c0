import Beans.Declaration.Grammar.Nested
import Beans.Manifest.Key
/-!
# Manifests

A manifest lists the packages that a package depends on. It decides under which path generated code
finds a package of the `bean_` family: under its own name if it is listed, or else as a module of one of
the packages that gather the family. Ordinary dependencies come before those for development.
-/

set_option autoImplicit false

namespace Beans

inductive SectionForm where
  /-- A header with the keys below it. -/
  | table
  /-- A header for each key. -/
  | subtables
  /-- A line with a dotted key for each key. -/
  | dotted
  /-- A value in braces. -/
  | inline
  | text
  | array
deriving DecidableEq, Repr

def SectionForm.name : SectionForm → String
  | table => "table"
  | subtables => "subtables"
  | dotted => "dotted"
  | inline => "inline"
  | text => "string"
  | array => "array"

def SectionForm.ofName? (name : String) : Option SectionForm :=
  [table, subtables, dotted, inline, text, array].find? (·.name = name)

structure ManifestSection where
  name : String
  form : SectionForm
  keys : List String
deriving DecidableEq, Repr

inductive EntryKind where
  /-- A table with a header of its own. -/
  | table
  /-- One of several tables of the same name. -/
  | element
  | value
deriving DecidableEq, Repr

structure ManifestEntry where
  path : List String
  kind : EntryKind
deriving DecidableEq, Repr

/-- The entries of a section. A header is in force until the next one, and lines with values stand below
the header that is in force. -/
structure SectionEntries where
  entries : List ManifestEntry
  header : List String

structure Manifest where
  sections : List ManifestSection

structure InvalidPath where
  text : String
deriving DecidableEq, Repr

def InvalidPath.message (e : InvalidPath) : String :=
  s!"invalid path `{e.text}`"

namespace Manifest

/-- The entries of a section below the header that is in force before it. -/
def entriesOf (header : List String) (s : ManifestSection) : SectionEntries :=
  match parts? s.name with
  | none => ⟨[], header⟩
  | some name =>
    let keys := s.keys.map quotedKey
    let below (kind : EntryKind) : SectionEntries :=
      ⟨⟨name, kind⟩ :: keys.map (⟨name ++ [·], .value⟩), name⟩
    match s.form with
    | .table => below .table
    | .array => below .element
    | .subtables =>
      ⟨keys.map (⟨name ++ [·], .table⟩), (keys.getLast?.map (name ++ [·])).getD header⟩
    | .dotted => ⟨keys.map (⟨header ++ name ++ [·], .value⟩), header⟩
    | .inline | .text => ⟨[⟨header ++ name, .value⟩], header⟩

def entriesFrom (header : List String) : List ManifestSection → List ManifestEntry
  | [] => []
  | s :: rest =>
    let r := entriesOf header s
    r.entries ++ entriesFrom r.header rest

def entries (m : Manifest) : List ManifestEntry :=
  entriesFrom [] m.sections

/-- The keys of the table of a name. What is a value itself, or one of several, is no table. -/
def keys (m : Manifest) (table : String) : List String :=
  if m.entries.any fun e => e.path = [table] && e.kind ≠ .table then []
  else m.entries.filterMap fun e =>
    match e.path with
    | name :: key :: _ => if name = table then some key else none
    | _ => none

/-- The text of what the tokens of a text hold, and nothing else. -/
def textIn (p : Declaration.TokenReader Declaration.PathForm) (text : String) : Except InvalidPath String :=
  match (Declaration.Token.ofText? text).map (Declaration.TokenReader.textOf p).whole with
  | some (.ok written) => .ok written
  | _ => .error ⟨text⟩

def rootPath (package : String) : Except InvalidPath String :=
  textIn (Declaration.grammar.path false) ("::" ++ package)

/-- The path of a module in a package, which is one word of a path. -/
def modulePath (package moduleName : String) : Except InvalidPath String := do
  let word : Declaration.TokenReader Declaration.PathForm :=
    return { segments := [← Declaration.grammar.segment false] }
  return "::" ++ package ++ "::" ++ (← textIn word moduleName)

/-- The packages that gather the family, in the order in which they are tried. -/
def gatherers : List String :=
  ["bean_core", "beans"]

/-- The name of a package of the family behind what all these names start with. -/
def familyModule? (package : String) : Option String :=
  match package.toList with
  | 'b' :: 'e' :: 'a' :: 'n' :: '_' :: rest => some (String.ofList rest)
  | _ => none

def pathIn? (keys : List String) (package : String) : Option (Except InvalidPath String) :=
  if keys.contains package then some (rootPath package)
  else do
    let moduleName ← familyModule? package
    let gatherer ← gatherers.find? keys.contains
    return modulePath gatherer moduleName

/-- The tables of dependencies, in the order in which they are searched. -/
def dependencyTables : List String :=
  ["dependencies", "dev-dependencies"]

def pathOf (m : Manifest) (package : String) : Except InvalidPath String :=
  (dependencyTables.findSome? fun table => pathIn? (m.keys table) package).getD (rootPath package)

end Manifest

end Beans
