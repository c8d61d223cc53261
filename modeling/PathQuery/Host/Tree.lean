import PathQuery.Host.Basic
import PathQuery.Host.Path

/-! # File trees

A system whose files are all given beforehand, without effects.  Directories are there
as far as the files in them need them. -/
namespace PathQuery

/-- Files under their full names, part by part, and the directory that other names start
from. -/
structure FileTree where
  directory : List (List Char)
  files : List (List (List Char) × ByteArray)

namespace FileTree

/-- Whether there is a directory of a full name. -/
def isDirectory (t : FileTree) (name : List (List Char)) : Bool :=
  name.isPrefixOf t.directory || t.files.any fun f => name.isPrefixOf f.1 && name != f.1

/-- What is found by following the parts of a path from a directory. -/
def follow (t : FileTree) (at' : List (List Char)) : List (List Char) → Found
  | [] => .unreadable
  | part :: rest =>
    if Path.isIdle part then follow t at' rest
    else if part = ['.', '.'] then follow t at'.dropLast rest
    else
      let here := at' ++ [part]
      if t.isDirectory here then follow t here rest
      else
        match t.files.lookup here, rest with
        | some b, [] => .bytes b
        | _, _ => .missing

/-- What is found under a path. -/
def find (t : FileTree) (p : String) : Found :=
  t.follow (if Path.isAbsolute p then [] else t.directory) (Path.parts p)

/-- The system with these files, environment and standard input; it has no home directory on
record. -/
def host (t : FileTree) (environment : List (String × String)) (input : ByteArray) : Host Id where
  environment name := environment.lookup name
  home := none
  file := t.find
  input := .bytes input

end FileTree

end PathQuery
