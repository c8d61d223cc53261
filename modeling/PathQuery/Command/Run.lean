import PathQuery.Command.Basic
import PathQuery.Document.Decode
import PathQuery.Log.Filter
import PathQuery.Log.Journal
import PathQuery.Query.Reader
import PathQuery.Query.Text
import PathQuery.Settings.Basic

/-! # Running commands

What a command does on a host.  A command goes through stages: it loads the settings,
checks the output format, reads the expression, reads and decodes the document, evaluates
and projects; the first stage that fails ends it.  On the way it prints and logs, and what
was printed before a failure stays printed.  Reading an expression alone needs no
settings. -/
namespace PathQuery

/-- The error of a result, if it is one. -/
def failureOf {α : Type} : Except Error α → Option Error
  | .ok _ => none
  | .error e => some e

/-- How far a command has come: the log filter in force, the events that it let pass, and
what was printed. -/
structure Progress where
  filter : Log.Filter
  events : List Log.Event := []
  printed : List Char := []

/-- A part of what a command does: it makes progress and succeeds or fails. -/
abbrev Action (m : Type → Type) := ExceptT Error (StateT Progress m)

namespace Action

variable {m : Type → Type} [Monad m] {α : Type}

/-- A result that is there without doing anything. -/
def ofExcept (x : Except Error α) : Action m α := fun p => return (x, p)

/-- The answer to a question to the host. -/
def ask (x : m α) : Action m α := fun p => return (.ok (← x), p)

/-- Changes how far the command has come. -/
def advance (f : Progress → Progress) : Action m Unit := fun p => return (.ok (), f p)

/-- Prints a text. -/
def print (s : List Char) : Action m Unit :=
  advance fun p => { p with printed := p.printed ++ s }

/-- Logs events, as far as the filter in force lets them pass. -/
def log (es : List Log.Event) : Action m Unit :=
  advance fun p => { p with events := p.events ++ es.filter p.filter.passes }

/-- Puts a log filter in force. -/
def setFilter (f : Log.Filter) : Action m Unit := advance fun p => { p with filter := f }

end Action

/-- What a command leaves behind: its output, its failure, and the events that its log
filter let pass. -/
structure Report where
  output : String
  failure : Option Error
  events : List Log.Event

namespace Report

/-- The exit code: zero for success and one for failure. -/
def code (r : Report) : Nat := if r.failure.isSome then 1 else 0

/-- The report of a command at its end. -/
def ofEnd (x : Except Error Unit × Progress) : Report :=
  ⟨String.ofList x.2.printed, failureOf x.1, x.2.events⟩

end Report

namespace Command

variable {m : Type → Type} [Monad m]

/-! ### Settings -/

/-- Puts the log filter of the settings in force, and complains if it is none.  A filter
from the environment stays in force. -/
def adoptFilter (given : Option Log.Filter) (settings : Settings) : Action m Unit :=
  match given with
  | some _ => pure ()
  | none =>
    match Log.Filter.read? settings.logFilter with
    | some f => .setFilter f
    | none => .log [Log.filterInvalid]

/-- Loads the settings, with the directory that they are in. -/
def loadSettings (host : Host m) (given : Option Log.Filter) :
    Action m (String × Settings) := do
  let directory ← .ofExcept (← .ask (Settings.directory host))
  let settings ← .ofExcept (Settings.load (← .ask (host.file (Settings.path directory))))
  .log [Log.settingsLoaded]
  adoptFilter given settings
  .log [Log.settingsInForce]
  return (directory, settings)

/-! ### Documents -/

/-- How a document is written: as the file's name says, unless the command says TOML. -/
def encoding (s : Source) (path : String) : Encoding :=
  if s.toml then .toml else Document.encodingOf path

/-- The document of a source.  Only a file whose name decides how it is decoded logs that
it was read. -/
def readDocument (host : Host m) (s : Source) : Action m Document := do
  match s.file.filter (!Path.isDash ·) with
  | some path =>
    let text ← .ofExcept (← .ask (host.file path)).text
    if !s.toml then .log [Log.documentRead]
    .ofExcept (Document.ofText (encoding s path) text)
  | none =>
    let text ← .ofExcept (← .ask host.input).text
    .ofExcept (Document.ofText (if s.toml then .toml else .json) text)

/-- The collection that a query leads to from a document. -/
def evaluate (q : Query) (d : Document) : Action m Collection := do
  .log (Log.ofQuery q d.root)
  .ofExcept (q.eval d.root)

/-! ### Output -/

/-- A scalar on a line of its own: a string as it is, any other as JSON. -/
def scalarLine : Json → List Char
  | .string s => s.toList ++ ['\n']
  | v => v.chars ++ ['\n']

/-- Prints the matches in a format. -/
def printMatches (format : Format) (policy : Composites) (c : Collection) :
    Action m Unit := do
  match format with
  | .json => .print ((Json.array (c.entries.map Entry.value)).indentedChars 0 ++ ['\n'])
  | .values =>
    .log (Log.ofProjection c policy)
    let vs ← .ofExcept (c.scalars policy)
    .print (vs.flatMap scalarLine)
  | .count => .print (Nat.toDigits 10 c.entries.length ++ ['\n'])

/-- The names of the children of every match, each on a line. -/
def nameLines (c : Collection) : List Char :=
  c.entries.flatMap fun e => e.children.flatMap fun f => f.text.toList ++ ['\n']

/-! ### Commands -/

/-- The format that is asked for, or that of the settings. -/
def formatOf (settings : Settings) (format : Option String) : Except Error Format :=
  let name := format.getD settings.outputFormat
  match Format.ofName? name with
  | some f => .ok f
  | none => .error (.settings (.unknownFormat name))

/-- What a projection does with composites: as the command says, or as the settings. -/
def policyOf (settings : Settings) (skip : Bool) : Composites :=
  if skip then .skip else settings.composites

/-- The stages of a command.  The expression is read before the document, so that a fault in
it shows without waiting for the standard input. -/
def perform (host : Host m) (given : Option Log.Filter) : Command → Action m Unit
  | query expression source format skip => do
    let (_, settings) ← loadSettings host given
    let f ← .ofExcept (formatOf settings format)
    let q ← .ofExcept (Query.read expression)
    let d ← readDocument host source
    let c ← evaluate q d
    .log [Log.matched]
    printMatches f (policyOf settings skip) c
  | names expression source => do
    let _ ← loadSettings host given
    let q ← .ofExcept (Query.read expression)
    let d ← readDocument host source
    let c ← evaluate q d
    .print (nameLines c)
  | parse expression => do
    let q ← .ofExcept (Query.read expression)
    .print (q.chars ++ ['\n'])
  | showSettings => do
    let (directory, settings) ← loadSettings host given
    .print ('#' :: ' ' :: (Settings.path directory).toList ++ ['\n'])
    .print settings.chars

/-- What a command leaves behind.  The log filter of the environment is in force from the
start, or one that lets warnings pass. -/
def run (host : Host m) (c : Command) : m Report := do
  let given := (← host.environment "RUST_LOG").bind Log.Filter.read?
  return .ofEnd (← c.perform host given { filter := given.getD .warnings })

end Command

end PathQuery
