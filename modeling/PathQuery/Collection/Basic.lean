import PathQuery.Entry.Basic
import PathQuery.Json.Text
import PathQuery.Error

/-! # Collections

A collection is an ordered list of entries under the name of the step that found them.
Navigation from a value is given once for a single value, `Json.descend` and
`Json.search`, and a collection applies it to each of its entries in turn; so what a
step finds is the concatenation of what it finds from each entry. -/
namespace PathQuery

/-- An ordered list of entries. -/
structure Collection where
  name : String
  entries : List Entry

/-! ### Navigation from one value -/

namespace Json

mutual

/-- What is stored under `key`: in an object as entries, and in each element of an
array. -/
def descend (key : String) : Json → List Entry
  | object members =>
    match members.lookup key with
    | some v => Entry.ofMember key v
    | none => []
  | array items => descendItems key items
  | _ => []

/-- What is stored under `key` in each of the items. -/
def descendItems (key : String) : List Json → List Entry
  | [] => []
  | v :: vs => descend key v ++ descendItems key vs

end

mutual

/-- What is stored under `key` at any depth, in the order of the document. -/
def search (key : String) : Json → List Entry
  | object members => searchMembers key members
  | array items => searchItems key items
  | _ => []

/-- What is stored under `key` at any depth of the members: a member itself, if that is
its key, before what is inside it. -/
def searchMembers (key : String) : List (String × Json) → List Entry
  | [] => []
  | (k, v) :: ms =>
    (if k = key then Entry.ofMember k v else []) ++ search key v ++ searchMembers key ms

/-- What is stored under `key` at any depth of the items. -/
def searchItems (key : String) : List Json → List Entry
  | [] => []
  | v :: vs => search key v ++ searchItems key vs

end

end Json

namespace Entry

/-- Every child of an entry, the arrays among the members of an object replaced by their
elements. -/
def spread (e : Entry) : List Entry :=
  if e.kind = .object then
    e.children.flatMap fun c => if c.kind = .array then c.children else [c]
  else e.children

end Entry

/-- What a projection to scalars does with objects and arrays. -/
inductive Composites where
  | refuse
  | skip
  deriving DecidableEq, Repr

namespace Collection

/-- The collection of a whole document. -/
def root (v : Json) : Collection := ⟨Name.root.text, [.root v]⟩

/-! ### Steps -/

/-- What is stored under `key`, for each entry. -/
def getKey (c : Collection) (key : String) : Collection :=
  ⟨key, c.entries.flatMap fun e => e.value.descend key⟩

/-- The field name that stands for every child. -/
def wildcard : String := "*"

/-- Every child of every entry. -/
def spread (c : Collection) : Collection := ⟨wildcard, c.entries.flatMap Entry.spread⟩

/-- What is stored under `key`, or every child if it is the wildcard. -/
def get (c : Collection) (key : String) : Collection :=
  if key = wildcard then c.spread else c.getKey key

/-- What is stored under `key` at any depth. -/
def search (c : Collection) (key : String) : Collection :=
  ⟨key, c.entries.flatMap fun e => e.value.search key⟩

/-- The entries that satisfy a test, in order. -/
def filter (c : Collection) (p : Entry → Bool) : Collection := ⟨c.name, c.entries.filter p⟩

/-- The entry at a place. -/
def nth (c : Collection) (i : Nat) : Except Error Entry :=
  match c.entries[i]? with
  | some e => .ok e
  | none => .error (.indexOutOfRange i c.entries.length)

/-- The collection of just the entry at a place. -/
def select (c : Collection) (i : Nat) : Except Error Collection :=
  (c.nth i).map fun e => ⟨c.name, [e]⟩

/-! ### Projections -/

/-- The scalars of entries, in order. -/
def scalarsOf (policy : Composites) : List Entry → Except Error (List Json)
  | [] => .ok []
  | e :: es =>
    if e.isScalar then (scalarsOf policy es).map (e.value :: ·)
    else
      match policy with
      | .refuse => .error (.notScalar e.text e.kind)
      | .skip => scalarsOf policy es

/-- The scalars of a collection, in order. -/
def scalars (c : Collection) (policy : Composites) : Except Error (List Json) :=
  scalarsOf policy c.entries

/-- The values of which none before has the same text. -/
def uniqueFrom (seen : List (List Char)) : List Json → List Json
  | [] => []
  | v :: vs =>
    if v.chars ∈ seen then uniqueFrom seen vs else v :: uniqueFrom (v.chars :: seen) vs

/-- The scalars of a collection, each one only where it occurs first. -/
def uniqueScalars (c : Collection) : Except Error (List Json) :=
  (c.scalars .refuse).map (uniqueFrom [])

/-- The names of the entries. -/
def names (c : Collection) : List Name := c.entries.map Entry.name

/-- The kinds of the entries. -/
def kinds (c : Collection) : List Kind := c.entries.map Entry.kind

/-- Whether two lists of entries are the same, one by one. -/
def sameEntries : List Entry → List Entry → Bool
  | [], [] => true
  | e :: es, f :: fs => e.same f && sameEntries es fs
  | _, _ => false

/-- Whether two collections have the same name and the same entries. -/
def same (c d : Collection) : Bool := c.name == d.name && sameEntries c.entries d.entries

end Collection

namespace Document

/-- The collection of the whole document. -/
def root (d : Document) : Collection := .root d.value

end Document

end PathQuery
