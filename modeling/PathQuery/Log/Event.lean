/-! # Log events

An event has a level, a target and fields; the target says which part of the program it
comes from, in parts from the whole to the detail. -/
namespace PathQuery.Log

/-- How grave an event is. -/
inductive Level where
  | error
  | warn
  | info
  | debug
  | trace
  deriving DecidableEq, Repr

namespace Level

/-- The place of a level, from the gravest on. -/
def rank : Level → Nat
  | error => 1
  | warn => 2
  | info => 3
  | debug => 4
  | trace => 5

/-- The name of a level. -/
def name : Level → String
  | error => "ERROR"
  | warn => "WARN"
  | info => "INFO"
  | debug => "DEBUG"
  | trace => "TRACE"

/-- All levels. -/
def all : List Level := [error, warn, info, debug, trace]

end Level

/-- An event. -/
structure Event where
  level : Level
  target : String
  fields : List String
  deriving DecidableEq, Repr

end PathQuery.Log
