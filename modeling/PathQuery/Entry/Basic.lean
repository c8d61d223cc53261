import PathQuery.Json.Document

/-! # Entries

An entry is one node of a document together with the key through which it was reached
and, for an element of an array, its place there. -/
namespace PathQuery

/-- The key through which an entry was reached; the whole document has none. -/
inductive Name where
  | root
  | key (k : String)
  deriving DecidableEq, Repr

namespace Name

/-- The text of a name. -/
def text : Name → String
  | root => "<root>"
  | key k => k

/-- Whether the name is the mark of the whole document, not a key. -/
def isRoot : Name → Bool
  | root => true
  | key _ => false

end Name

/-- One node of a document. -/
structure Entry where
  name : Name
  index : Option Nat
  value : Json

namespace Entry

/-- The entry of a whole document. -/
def root (v : Json) : Entry := ⟨.root, none, v⟩

/-- The kind of the node. -/
def kind (e : Entry) : Kind := e.value.kind

/-- Whether the node is a scalar. -/
def isScalar (e : Entry) : Bool := e.value.isScalar

/-- The member stored under `key`, if the node is an object that has it. -/
def field? (e : Entry) (key : String) : Option Json := e.value.member? key

/-- The elements of an array as entries of one name. -/
def elements (name : Name) (items : List Json) : List Entry :=
  items.mapIdx fun i v => ⟨name, some i, v⟩

/-- The children of an entry: the members of an object, or the elements of an array
under the entry's own name. -/
def children (e : Entry) : List Entry :=
  match e.value with
  | .object members => members.map fun m => ⟨.key m.1, none, m.2⟩
  | .array items => elements e.name items
  | _ => []

/-- An object's member as entries: one for each element if it is an array. -/
def ofMember (key : String) : Json → List Entry
  | .array items => elements (.key key) items
  | v => [⟨.key key, none, v⟩]

/-- The name of an entry, with its place in brackets. -/
def text (e : Entry) : String :=
  match e.index with
  | some i => e.name.text ++ "[" ++ toString i ++ "]"
  | none => e.name.text

/-- Whether two entries are the same, the members of objects taken in any order. -/
def same (e f : Entry) : Bool := e.name == f.name && e.index == f.index && e.value.same f.value

@[simp] theorem length_elements (name : Name) (items : List Json) :
    (elements name items).length = items.length := by
  simp [elements]

end Entry

end PathQuery
