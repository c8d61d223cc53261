import PathQuery.Collection.Basic
import PathQuery.Host.Basic
import PathQuery.Host.Path
import PathQuery.Toml.Reader
import PathQuery.Toml.Text

/-! # Settings

The settings file of the program: what a projection does with objects and arrays, the
output format, and the log filter.  Settings that are missing have defaults, others than
these do not count, and an output format that does not exist is refused. -/
namespace PathQuery

namespace Composites

/-- The word for a policy. -/
def text : Composites → String
  | refuse => "error"
  | skip => "skip"

/-- The policy of a word. -/
def ofText? (s : String) : Option Composites :=
  if s = "error" then some refuse else if s = "skip" then some skip else none

theorem ofText?_text (p : Composites) : ofText? p.text = some p := by
  cases p <;> decide +kernel

/-- The policy of a value: a word, or a table with the word as its only key and nothing
under it. -/
def ofToml? : Toml → Option Composites
  | .string s => ofText? s
  | .table [(k, .table [])] => ofText? k
  | .table [(k, .array [])] => ofText? k
  | _ => none

end Composites

/-- The settings. -/
structure Settings where
  composites : Composites := .refuse
  outputFormat : String := Format.json.name
  logFilter : String := "warn"
  deriving DecidableEq, Repr

namespace Settings

/-- The string that a setting holds, or its default. -/
def string? (ms : List (String × Toml)) (key default : String) : Option String :=
  match ms.lookup key with
  | none => some default
  | some (.string s) => some s
  | some _ => none

/-- The settings of a table, whatever their output format. -/
def ofToml? : Toml → Option Settings
  | .table ms => do
    let composites ←
      match ms.lookup "composite_values" with
      | none => some .refuse
      | some v => Composites.ofToml? v
    let outputFormat ← string? ms "output_format" Format.json.name
    let logFilter ← string? ms "log_level" "warn"
    return ⟨composites, outputFormat, logFilter⟩
  | _ => none

/-- The settings of a text, whatever their output format. -/
def decode? (s : String) : Option Settings := (Toml.read? s).bind ofToml?

/-- The settings of a text. -/
def read (s : String) : Except Error Settings :=
  match decode? s with
  | none => .error (.settings .undecodable)
  | some settings =>
    if (Format.ofName? settings.outputFormat).isSome then .ok settings
    else .error (.settings (.unknownOutputFormat settings.outputFormat))

/-- The settings of what is found in place of the file; without a file, the defaults. -/
def load : Found → Except Error Settings
  | .missing => .ok {}
  | found =>
    match found.text with
    | .error e => .error e
    | .ok s => read s

/-- A line of the settings file. -/
def line (key value : String) : List Char :=
  key.toList ++ [' ', '=', ' '] ++ Toml.stringChars value.toList ++ ['\n']

/-- The text of the settings file. -/
def chars (s : Settings) : List Char :=
  line "composite_values" s.composites.text ++ line "output_format" s.outputFormat ++
    line "log_level" s.logFilter

/-- The text of the settings file, as a string. -/
def text (s : Settings) : String := String.ofList s.chars

/-- The settings file in a directory. -/
def path (directory : String) : String := Path.join directory "config.toml"

/-- The user's home directory: the one in the environment, unless it is empty, or else the
one on record. -/
def homeDirectory {m : Type → Type} [Monad m] (host : Host m) : m (Option String) := do
  match (← host.environment "HOME").filter (!·.isEmpty) with
  | some d => return some d
  | none => host.home

/-- The directory of the settings file: the one that a variable names, or the program's
own among the settings of a user with a home directory.  For a user without one, a name of it
in the environment will do even if it is empty. -/
def directory {m : Type → Type} [Monad m] (host : Host m) : m (Except Error String) := do
  match ← host.environment "PARSR_ROOT" with
  | some d => return .ok d
  | none =>
    match ← homeDirectory host with
    | some home =>
      match (← host.environment "XDG_CONFIG_HOME").filter Path.isAbsolute with
      | some d => return .ok (Path.join d "parsr")
      | none => return .ok (Path.join home ".config/parsr")
    | none =>
      match ← host.environment "HOME" with
      | some home => return .ok (Path.join home ".config/parsr")
      | none => return .error (.settings .homeless)

end Settings

end PathQuery
