import PathQuery.Command.Run

/-! # Starting the program

From a command line to exit code and output. -/
namespace PathQuery

/-- What the program leaves behind: its exit code, output, the error that ended it and
the events that were logged. -/
structure Outcome where
  code : Nat
  output : String
  failure : Option Error
  events : List Log.Event

namespace Outcome

/-- The outcome of a report. -/
def ofReport (r : Report) : Outcome := ⟨r.code, r.output, r.failure, r.events⟩

/-- The outcome of a text that is printed. -/
def ofText (s : String) : Outcome := ⟨0, s, none, []⟩

/-- The outcome of a command line that cannot be read. -/
def misuse : Outcome := ⟨2, "", none, []⟩

end Outcome

namespace Request

/-- The program's name and version. -/
def versionText : String := "pq 0.1.0\n"

/-- How the program is used. -/
def helpText : String :=
  "\n".intercalate [
    "Query JSON and TOML documents with path expressions",
    "",
    "Usage: pq <COMMAND>",
    "",
    "Commands:",
    "  query   Evaluate a path expression against a document [aliases: q]",
    "  names   List the child names of each matched entry [aliases: n]",
    "  parse   Print the canonical form of a path expression",
    "  config  Show the effective configuration",
    ""]

/-- What the program does with a request. -/
def answer {m : Type → Type} [Monad m] (host : Host m) : Request → m Outcome
  | run c => do return .ofReport (← c.run host)
  | version => return .ofText versionText
  | help => return .ofText helpText
  | misuse => return .misuse

end Request

end PathQuery
