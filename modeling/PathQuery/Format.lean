/-! # Output formats

The forms in which the matches of a query are printed. -/
namespace PathQuery

/-- A form of output: the values as one JSON array, each scalar on a line, or their
number. -/
inductive Format where
  | json
  | values
  | count
  deriving DecidableEq, Repr

namespace Format

/-- The name of a format. -/
def name : Format → String
  | json => "json"
  | values => "values"
  | count => "count"

/-- All formats. -/
def all : List Format := [json, values, count]

/-- The format of a name. -/
def ofName? (s : String) : Option Format := all.find? fun f => f.name == s

/-- The names of all formats, as a list in words. -/
def choices : String := ", ".intercalate (all.map name)

theorem ofName?_name (f : Format) : ofName? f.name = some f := by
  cases f <;> decide +kernel

end Format

end PathQuery
