import PathQuery.Members
import PathQuery.Toml.Basic

/-! # Building tables

A TOML text is a list of sections, each a header and pairs of a key and a value; the
first section has no header.  Here the sections are put together to one table.

A table is *headed* if a header names it, *passed* if only headers of tables inside it
do, and *dotted* if it comes from the dots in a key.  A header may name a table once, and
only one that so far was passed; that table moves to the end of its parent.  The dots in
a key lead only through passed and dotted tables, and to a dotted one.  Inline tables
and arrays are closed. -/
namespace PathQuery.Toml

/-- How a table came to be. -/
inductive Origin where
  | headed
  | passed
  | dotted
  deriving DecidableEq, Repr

/-- A node while tables are built: a value, a table that may grow, or a row of tables of
which the last may grow. -/
inductive Node where
  | value (v : Toml)
  | table (origin : Origin) (members : List (String × Node))
  | row (tables : List (List (String × Node)))

/-- The members of a table that may grow. -/
abbrev Growing := List (String × Node)

/-- A key with the keys before its dots. -/
structure Key where
  path : List String
  last : String
  deriving DecidableEq, Repr

/-- A section: its header and its pairs.  `repeated` tells that the header names one of a
row of tables. -/
structure Section where
  header : Key
  repeated : Bool
  pairs : List (Key × Toml)

/-- The members with the table at the end of a path changed by `f`, which is told how
that table came to be.  Tables that are missing on the way come to be with the origin
`made`; if that is by dots, headed tables are not entered. -/
def within? (made : Origin) (f : Origin → Growing → Option Growing) (origin : Origin)
    (ms : Growing) : (path : List String) → Option Growing
  | [] => f origin ms
  | k :: ks =>
    match ms.lookup k with
    | none =>
      (within? made f made [] ks).map fun inner => Members.put k (.table made inner) ms
    | some (.value _) => none
    | some (.table inside inner) =>
      if made = .dotted ∧ inside = .headed then none
      else
        (within? made f inside inner ks).map fun inner => Members.put k (.table inside inner) ms
    | some (.row tables) =>
      (within? made f .headed (tables.getLastD []) ks).map fun last =>
        Members.put k (.row (tables.dropLast ++ [last])) ms

/-- A table with one more pair.  The last key must be new, and dots before it must have
led to a dotted table. -/
def addPair? (ms : Growing) (p : Key × Toml) : Option Growing :=
  within? .dotted (fun origin inner =>
    if (origin == .dotted) = p.1.path.isEmpty then none
    else if (inner.lookup p.1.last).isSome then none
    else some (inner ++ [(p.1.last, .value p.2)])) .headed ms p.1.path

/-- A table with more pairs. -/
def addPairs? (ms : Growing) (ps : List (Key × Toml)) : Option Growing := ps.foldlM addPair? ms

/-- The parent of a section's table with that table in it. -/
def placeSection? (s : Section) (ms : Growing) : Option Growing :=
  match s.repeated, ms.lookup s.header.last with
  | false, none => (addPairs? [] s.pairs).map fun t => ms ++ [(s.header.last, .table .headed t)]
  | false, some (.table .passed inner) =>
    (addPairs? inner s.pairs).map fun t =>
      ms.filter (·.1 != s.header.last) ++ [(s.header.last, .table .headed t)]
  | false, some _ => none
  | true, none => (addPairs? [] s.pairs).map fun t => ms ++ [(s.header.last, .row [t])]
  | true, some (.row tables) =>
    (addPairs? [] s.pairs).map fun t => Members.put s.header.last (.row (tables ++ [t])) ms
  | true, some _ => none

/-- The whole table with one more section. -/
def addSection? (ms : Growing) (s : Section) : Option Growing :=
  within? .passed (fun _ inner => placeSection? s inner) .headed ms s.header.path

mutual

/-- The value of a node. -/
def Node.toml : Node → Toml
  | .value v => v
  | .table _ ms => .table (tomlMembers ms)
  | .row ts => .array (tomlTables ts)

/-- The values of members. -/
def tomlMembers : List (String × Node) → List (String × Toml)
  | [] => []
  | (k, n) :: ms => (k, n.toml) :: tomlMembers ms

/-- The values of a row of tables. -/
def tomlTables : List (List (String × Node)) → List Toml
  | [] => []
  | t :: ts => .table (tomlMembers t) :: tomlTables ts

end

/-- The table of pairs alone, such as an inline table has. -/
def ofPairs? (ps : List (Key × Toml)) : Option Toml :=
  (addPairs? [] ps).map fun ms => .table (tomlMembers ms)

/-- The table of pairs and the sections after them. -/
def ofSections? (first : List (Key × Toml)) (sections : List Section) : Option Toml := do
  let ms ← addPairs? [] first
  let ms ← sections.foldlM addSection? ms
  return .table (tomlMembers ms)

end PathQuery.Toml
