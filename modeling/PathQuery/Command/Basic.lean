/-! # Commands

What the program can be asked to do, and how its command line is read.  Options may stand
before, between and after the other arguments, each at most once; after two dashes
everything is an argument. -/
namespace PathQuery

/-- A document to read: a file, or the standard input if there is none. -/
structure Source where
  file : Option String := none
  toml : Bool := false
  deriving DecidableEq, Repr

/-- What the program is to do. -/
inductive Command where
  | query (expression : String) (source : Source) (format : Option String) (skip : Bool)
  | names (expression : String) (source : Source)
  | parse (expression : String)
  | showSettings
  deriving DecidableEq, Repr

/-- What a command line asks for. -/
inductive Request where
  | run (c : Command)
  | version
  | help
  | misuse
  deriving DecidableEq, Repr

namespace Request

/-- What has been read of the arguments after the command's name. -/
structure Given where
  positional : List String := []
  format : Option String := none
  toml : Bool := false
  skip : Bool := false
  deriving DecidableEq, Repr

/-- Which options a command has, and how many other arguments at most. -/
structure Known where
  format : Bool
  toml : Bool
  skip : Bool
  positional : Nat
  deriving DecidableEq, Repr

/-- Whether an argument looks like an option; a dash alone does not. -/
def looksLikeOption (arg : String) : Bool :=
  match arg.toList with
  | '-' :: _ :: _ => true
  | _ => false

/-- The value in an argument that starts with an option's name: what follows it, without
an equals sign before it. -/
def attached? (name arg : String) : Option String :=
  if name.toList.isPrefixOf arg.toList then
    match arg.toList.drop name.length with
    | '=' :: r => some (String.ofList r)
    | r => some (String.ofList r)
  else none

/-- One format more; there may be one only. -/
def Given.withFormat? (g : Given) (f : String) : Option Given :=
  if g.format.isSome then none else some { g with format := some f }

/-- What is given by an argument that is an option with a value of its own or none. -/
def Given.withOption? (known : Known) (g : Given) (arg : String) : Option Given :=
  if known.toml ∧ arg = "--toml" then (if g.toml then none else some { g with toml := true })
  else if known.skip ∧ arg = "--skip-composite" then
    (if g.skip then none else some { g with skip := true })
  else if known.format then
    if "--".toList.isPrefixOf arg.toList then
      if "--format=".toList.isPrefixOf arg.toList then
        (attached? "--format" arg).bind g.withFormat?
      else none
    else (attached? "-f" arg).bind g.withFormat?
  else none

/-- One argument more that is no option.  There may not be more than the command has, and
the second, a file, must have a name. -/
def Given.withPositional? (known : Known) (g : Given) (arg : String) : Option Given :=
  if known.positional ≤ g.positional.length ∨ (g.positional.length = 1 ∧ arg.isEmpty) then none
  else some { g with positional := g.positional ++ [arg] }

/-- What arguments come to: something that is given, a request for help, or misuse. -/
inductive Reading where
  | given (g : Given)
  | help
  | misuse
  deriving DecidableEq, Repr

/-- What is given by arguments, read up to the first that cannot be or that asks for help. -/
def readArguments (known : Known) (g : Given) : List String → Reading
  | [] => .given g
  | arg :: rest =>
    if arg = "--" then
      match rest.foldlM (fun g arg => g.withPositional? known arg) g with
      | none => .misuse
      | some g => .given g
    else if arg = "--help" ∨ "-h".toList.isPrefixOf arg.toList then .help
    else if known.format ∧ (arg = "-f" ∨ arg = "--format") then
      match rest with
      | [] => .misuse
      | value :: rest =>
        if looksLikeOption value then .misuse
        else
          match g.withFormat? value with
          | none => .misuse
          | some g => readArguments known g rest
    else
      match (if looksLikeOption arg then g.withOption? known arg
        else g.withPositional? known arg) with
      | none => .misuse
      | some g => readArguments known g rest

/-- The command of an expression and perhaps a file. -/
def withSource (g : Given) (f : String → Source → Command) : Request :=
  match g.positional with
  | [expression] => .run (f expression ⟨none, g.toml⟩)
  | [expression, file] => .run (f expression ⟨some file, g.toml⟩)
  | _ => .misuse

/-- The request of a command's arguments. -/
def ofArguments (known : Known) (args : List String) (f : Given → Request) : Request :=
  match readArguments known {} args with
  | .given g => f g
  | .help => .help
  | .misuse => .misuse

/-- The names of the commands, and the word that asks for help about one. -/
def commandNames : List String := ["query", "q", "names", "n", "parse", "config", "help"]

/-- The request of a command line. -/
def read : List String → Request
  | [] => .misuse
  | command :: args =>
    if command = "query" ∨ command = "q" then
      ofArguments ⟨true, true, true, 2⟩ args fun g =>
        withSource g fun e s => .query e s g.format g.skip
    else if command = "names" ∨ command = "n" then
      ofArguments ⟨false, true, false, 2⟩ args fun g => withSource g .names
    else if command = "parse" then
      ofArguments ⟨false, false, false, 1⟩ args fun g =>
        match g.positional with
        | [expression] => .run (.parse expression)
        | _ => .misuse
    else if command = "config" then
      ofArguments ⟨false, false, false, 0⟩ args fun _ => .run .showSettings
    else if command = "--version" ∨ "-V".toList.isPrefixOf command.toList then .version
    else if command = "--help" ∨ "-h".toList.isPrefixOf command.toList then .help
    else if command = "help" then
      match args with
      | [] => .help
      | [about] => if commandNames.contains about then .help else .misuse
      | _ => .misuse
    else .misuse

end Request

end PathQuery
