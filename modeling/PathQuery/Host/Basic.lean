import PathQuery.Error

/-! # The host of a program

What a program can ask of the system it runs on: variables of the environment, the home
directory that the system has on record for the user, files and the standard input.  The
rest of the library is a function of the answers. -/
namespace PathQuery

/-- What is found under the name of a file, or as the standard input. -/
inductive Found where
  | missing
  | unreadable
  | bytes (b : ByteArray)

namespace Found

/-- The text of what was found; it has to be a file in UTF-8. -/
def text : Found → Except Error String
  | bytes b =>
    match String.fromUTF8? b with
    | some s => .ok s
    | none => .error .unreadable
  | missing | unreadable => .error .unreadable

end Found

/-- The answers of a system, with effects in `m`. -/
structure Host (m : Type → Type) where
  environment : String → m (Option String)
  home : m (Option String)
  file : String → m Found
  input : m Found

end PathQuery
