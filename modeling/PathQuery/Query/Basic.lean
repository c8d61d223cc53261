import PathQuery.Collection.Basic
import PathQuery.Predicate.Basic

/-! # Queries

A query is a list of steps, applied from left to right to a collection.  Only picking an
entry by its place can fail. -/
namespace PathQuery

/-- One step of a query. -/
inductive Step where
  | descend (key : String)
  | spread
  | search (key : String)
  | filter (p : Predicate)
  | nth (index : Nat)

/-- A list of steps. -/
structure Query where
  steps : List Step

namespace Step

/-- The collection a step leads to. -/
def apply (c : Collection) : Step → Except Error Collection
  | descend key => .ok (c.getKey key)
  | spread => .ok c.spread
  | search key => .ok (c.search key)
  | filter p => .ok (c.filter p.test)
  | nth i => c.select i

/-- Whether two steps are the same. -/
def same : Step → Step → Bool
  | descend k, descend l => k == l
  | spread, spread => true
  | search k, search l => k == l
  | filter p, filter q => p.same q
  | nth i, nth j => i == j
  | _, _ => false

end Step

namespace Query

/-- Whether the query has no steps; then it leads nowhere else. -/
def isIdentity (q : Query) : Bool := q.steps.isEmpty

/-- The collection that steps lead to, one after the other. -/
def run (c : Collection) : List Step → Except Error Collection
  | [] => .ok c
  | s :: ss =>
    match s.apply c with
    | .ok d => run d ss
    | .error e => .error e

/-- The collection that a query leads to. -/
def eval (q : Query) (c : Collection) : Except Error Collection := run c q.steps

/-- Whether two lists of steps are the same, one by one. -/
def sameSteps : List Step → List Step → Bool
  | [], [] => true
  | s :: ss, t :: ts => s.same t && sameSteps ss ts
  | _, _ => false

/-- Whether two queries have the same steps. -/
def same (q r : Query) : Bool := sameSteps q.steps r.steps

theorem run_append (c : Collection) (ss ts : List Step) :
    run c (ss ++ ts) = (run c ss).bind fun d => run d ts := by
  induction ss generalizing c with
  | nil => rfl
  | cons s ss ih =>
    simp only [List.cons_append, run]
    split
    · exact ih _
    · rfl

end Query

end PathQuery
