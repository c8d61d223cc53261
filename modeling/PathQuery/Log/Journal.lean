import PathQuery.Log.Event
import PathQuery.Query.Basic

/-! # What is logged

The events of each part of the program, and those of a query: one for each step that
goes through the entries, and one at its end. -/
namespace PathQuery.Log

/-- The settings have been loaded. -/
def settingsLoaded : Event := ⟨.debug, "parsr::config", ["message", "path"]⟩

/-- The settings hold a log filter that is none. -/
def filterInvalid : Event := ⟨.warn, "pq", ["message", "log_level", "error"]⟩

/-- The settings are in force. -/
def settingsInForce : Event := ⟨.debug, "pq", ["message", "root"]⟩

/-- A document file has been read. -/
def documentRead : Event := ⟨.debug, "parsr::document", ["message", "path", "is_toml", "bytes"]⟩

/-- A query has been evaluated. -/
def evaluated : Event := ⟨.debug, "parsr::query::parser", ["message", "query", "matched"]⟩

/-- The result of a query is about to be printed. -/
def matched : Event := ⟨.debug, "pq::commands", ["message", "query", "format", "matched"]⟩

/-- An event about a collection. -/
def ofCollection (fields : List String) : Event :=
  ⟨.trace, "parsr::collection", "message" :: fields⟩

/-- The events of one step; picking an entry by its place has none. -/
def ofStep : Step → List Event
  | .descend _ => [ofCollection ["field", "from", "matched"]]
  | .spread => [ofCollection ["from", "matched"]]
  | .search _ => [ofCollection ["field", "from", "matched"]]
  | .filter _ => [ofCollection ["predicate", "from", "matched"]]
  | .nth _ => []

/-- The events of steps from a collection; a step that fails ends them. -/
def ofSteps (c : Collection) : List Step → List Event
  | [] => [evaluated]
  | s :: ss =>
    match s.apply c with
    | .ok d => ofStep s ++ ofSteps d ss
    | .error _ => []

/-- The events of a query. -/
def ofQuery (q : Query) (c : Collection) : List Event := ofSteps c q.steps

/-- The events of a projection: one for each object or array that is skipped. -/
def ofProjection (c : Collection) : Composites → List Event
  | .refuse => []
  | .skip => (c.entries.filter (!·.isScalar)).map fun _ => ofCollection ["entry"]

end PathQuery.Log
