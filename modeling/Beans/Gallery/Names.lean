import Beans.Gallery.Catalog
/-!
# Types of the gallery

The names of the types that values of the gallery have: those without parts, each also in an `Option` and
in a list, and a selection of containers.
-/

set_option autoImplicit false

namespace Beans.Gallery

def simpleNames : List String :=
  Scalar.all.map (·.name) ++ leafTypes.map (·.name) ++ beanTypes.map (·.name)

/-- The names of containers of more than one layer, or other than an `Option` or a list. -/
def containerNames : List String :=
  ["BTreeMap<Code, u8>", "BTreeMap<Currency, f64>", "BTreeMap<Option<String>, u8>",
   "BTreeMap<String, BTreeMap<String, i32>>", "BTreeMap<String, HashMap<String, i32>>",
   "BTreeMap<String, Option<i32>>", "BTreeMap<String, Person>", "BTreeMap<String, String>",
   "BTreeMap<String, Vec<u32>>", "BTreeMap<String, Vec<u8>>", "BTreeMap<String, i32>",
   "BTreeMap<Vec<u8>, u8>", "BTreeMap<bool, u8>", "BTreeMap<char, f64>", "BTreeMap<i128, u8>",
   "BTreeMap<i32, Option<String>>", "BTreeMap<i64, u8>", "BTreeMap<isize, u8>", "BTreeMap<u128, u8>",
   "BTreeMap<u8, bool>", "BTreeMap<usize, u8>", "BTreeSet<BTreeSet<u8>>", "BTreeSet<Code>",
   "BTreeSet<Currency>", "BTreeSet<Option<u8>>", "BTreeSet<String>", "BTreeSet<Vec<u8>>",
   "BTreeSet<bool>", "BTreeSet<char>", "BTreeSet<i32>", "BTreeSet<i64>", "BTreeSet<u8>",
   "HashMap<String, HashMap<String, i32>>", "HashMap<String, f64>", "HashMap<String, i32>",
   "HashMap<i32, Option<u8>>", "HashMap<u8, Vec<String>>", "HashSet<Code>", "HashSet<String>",
   "HashSet<Vec<u8>>", "HashSet<i32>", "HashSet<u8>", "Option<BTreeMap<String, i32>>",
   "Option<BTreeSet<String>>", "Option<HashMap<String, i32>>", "Option<HashSet<u8>>",
   "Option<Option<Option<i32>>>", "Option<Option<String>>", "Option<Option<i32>>",
   "Option<Option<u8>>", "Option<Vec<Option<i32>>>", "Option<Vec<String>>", "Option<Vec<u8>>",
   "Vec<BTreeMap<String, i32>>", "Vec<BTreeSet<u8>>", "Vec<HashSet<u8>>", "Vec<Option<Person>>",
   "Vec<Option<String>>", "Vec<Option<i32>>", "Vec<Vec<Vec<i32>>>", "Vec<Vec<u8>>"]

def typeNames : List String :=
  simpleNames ++ simpleNames.map (Ty.applied "Option" [·]) ++ simpleNames.map (Ty.applied "Vec" [·])
    ++ containerNames

end Beans.Gallery
