import PathQuery.Json.Basic

/-! # Documents

A document is a value in which no object has a key twice.  Decoders reach this form by
merging: a repeated key keeps its first place and takes its last value. -/
namespace PathQuery

/-- A decoded document. -/
structure Document where
  value : Json
  distinct : value.Distinct

namespace Document

/-- The document of any value, repeated keys merged. -/
def ofJson (v : Json) : Document := ⟨v.merged, v.distinct_merged⟩

/-- A string as a document. -/
def ofString (s : String) : Document := ⟨.string s, trivial⟩

/-- Whether two documents are the same, the members of objects taken in any order. -/
def same (d e : Document) : Bool := d.value.same e.value

end Document

end PathQuery
