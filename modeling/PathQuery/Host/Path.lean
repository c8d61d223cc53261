import PathQuery.Text.Split
import PathQuery.Text.Word

/-! # File names

Names of files with slashes between their parts.  Empty parts do not count, nor do
points alone, except at the start. -/
namespace PathQuery.Path

open Text

/-- The parts of a path between its slashes. -/
def parts (p : String) : List (List Char) := split '/' p.toList

/-- Whether the path starts at the root of all files. -/
def isAbsolute (p : String) : Bool := p.toList.head? == some '/'

/-- The path of a file in a directory. -/
def join (directory file : String) : String :=
  if directory.isEmpty || directory.toList.getLast? == some '/' then directory ++ file
  else directory ++ "/" ++ file

/-- Whether a part of a path leads nowhere. -/
def isIdle (part : List Char) : Bool := part == [] || part == ['.']

/-- The name of the file that a path leads to, if it ends with a name. -/
def fileName? (p : String) : Option (List Char) :=
  ((parts p).filter fun part => !isIdle part).getLast?.filter (· != ['.', '.'])

/-- The extension of a file: what follows the last point of its name, unless that point
is at the start. -/
def extension? (p : String) : Option (List Char) :=
  (fileName? p).bind fun name =>
    match (split '.' name).reverse with
    | after :: before => if before.all List.isEmpty && before.length ≤ 1 then none else some after
    | [] => none

/-- Whether the file's extension says that it is TOML. -/
def isToml (p : String) : Bool := (extension? p).map (·.map lowerCase) == some ['t', 'o', 'm', 'l']

/-- Whether the path is the dash that stands for the standard input. -/
def isDash (p : String) : Bool :=
  match parts p with
  | first :: rest => first == ['-'] && rest.all isIdle
  | [] => false

end PathQuery.Path
