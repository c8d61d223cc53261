import PathQuery.Predicate.Text
import PathQuery.Query.Basic

/-! # The text of queries

The canonical text of a query: a point before each name and wildcard but the first, two
before a name that is searched for, brackets around predicates and places. -/
namespace PathQuery.Query

/-- The text of a step; `first` tells that nothing stands before it. -/
def stepChars (first : Bool) : Step → List Char
  | .descend key => (if first then [] else ['.']) ++ Word.nameChars key
  | .spread => (if first then [] else ['.']) ++ ['*']
  | .search key => '.' :: '.' :: Word.nameChars key
  | .filter p => '[' :: p.chars ++ [']']
  | .nth i => '[' :: Nat.toDigits 10 i ++ [']']

/-- The canonical text of a query. -/
def chars (q : Query) : List Char :=
  match q.steps with
  | [] => ['.']
  | s :: ss => stepChars true s ++ ss.flatMap (stepChars false)

/-- The canonical text of a query, as a string. -/
def text (q : Query) : String := String.ofList q.chars

end PathQuery.Query
