import PathQuery.Number.Decimal
import PathQuery.Text.Split
import PathQuery.Text.Word

/-! # The users on record

A system keeps a list of its users, a line for each.  Between the colons of a line the third
part is the user's number and the sixth the home directory.  The number of the user that a
process runs for stands in the status of the process.

A user's home directory is that of the first line with the number (`home?_eq_some`). -/
namespace PathQuery.Users

open Text

/-- A number in digits alone. -/
def number? (s : List Char) : Option Nat :=
  if s ≠ [] ∧ s.all isDigit then some (Decimal.digitsValue s) else none

/-- The home directory in a line of the list, if the line is that of user `n`. -/
def homeIn? (n : Nat) (line : List Char) : Option (List Char) :=
  match split ':' line with
  | _ :: _ :: number :: _ :: _ :: home :: _ => if number? number = some n then some home else none
  | _ => none

/-- The home directory of user `n`; an empty one is none. -/
def home? (users : List Char) (n : Nat) : Option (List Char) :=
  ((split '\n' users).findSome? (homeIn? n)).filter (· ≠ [])

/-- The number of the user in a process's status. -/
def runner? (status : List Char) : Option Nat :=
  (split '\n' status).findSome? fun line =>
    match split '\t' line with
    | label :: number :: _ => if label = "Uid:".toList then number? number else none
    | _ => none

/-- The first line with the user's number decides, also if it names no directory. -/
theorem home?_eq_some {users home : List Char} {n : Nat} :
    home? users n = some home ↔
      home ≠ [] ∧ ∃ before line after, split '\n' users = before ++ line :: after ∧
        homeIn? n line = some home ∧ ∀ l ∈ before, homeIn? n l = none := by
  rw [home?, Option.filter_eq_some_iff, List.findSome?_eq_some_iff, and_comm, decide_eq_true_eq]

example : home? "root:x:0:0::/root:/bin/sh\nann:x:7:7::/home/ann:\n".toList 7 =
    some "/home/ann".toList := by decide

end PathQuery.Users
