import PathQuery.Json.Basic
import PathQuery.Number.Floating
import PathQuery.Toml.Datetime

/-! # TOML values

The values that a TOML text can hold.  `Toml.json` turns them into document values:
dates, times and numbers that are not finite become their text, all else keeps its kind;
an integer never becomes a double, nor a double an integer.

A table whose first key is `datetimeKey` stands for the date or time under this key, and
for nothing if there is none.  `Toml.resolved?` puts the dates and times in the place of
such tables. -/
namespace PathQuery

/-- A TOML value.  Integers are in the signed 64-bit range, from `-2 ^ 63` to below `2 ^ 63`. -/
inductive Toml where
  | string (s : String)
  | integer (n : Int) (fits : -9223372036854775808 ≤ n ∧ n < 9223372036854775808)
  | float (x : Floating)
  | boolean (b : Bool)
  | datetime (d : Toml.Datetime)
  | array (items : List Toml)
  | table (members : List (String × Toml))

namespace Toml

/-- The integer as a value, if it is in range. -/
def ofInt? (n : Int) : Option Toml :=
  if h : -9223372036854775808 ≤ n ∧ n < 9223372036854775808 then some (.integer n h) else none

/-- The key that marks a table as a date or time. -/
def datetimeKey : String := "$__toml_private_datetime"

/-- The date or time that a table stands for: `none` for a table that is just a table,
`some none` for one that is marked but holds no date or time. -/
def markedDatetime? : List (String × Toml) → Option (Option Datetime)
  | [] => none
  | (k, v) :: _ =>
    if k ≠ datetimeKey then none
    else
      match v with
      | string s => some (Datetime.read? s.toList)
      | _ => some none

mutual

/-- The value with dates and times in place of the tables that stand for them. -/
def resolved? : Toml → Option Toml
  | array items => (resolvedItems? items).map array
  | table members =>
    match markedDatetime? members with
    | none => (resolvedMembers? members).map table
    | some d => d.map datetime
  | string s => some (string s)
  | integer n fits => some (integer n fits)
  | float x => some (float x)
  | boolean b => some (boolean b)
  | datetime d => some (datetime d)

/-- The items with dates and times in place of the tables that stand for them. -/
def resolvedItems? : List Toml → Option (List Toml)
  | [] => some []
  | t :: ts =>
    match resolved? t, resolvedItems? ts with
    | some u, some us => some (u :: us)
    | _, _ => none

/-- The members with dates and times in place of the tables that stand for them. -/
def resolvedMembers? : List (String × Toml) → Option (List (String × Toml))
  | [] => some []
  | (k, t) :: ms =>
    match resolved? t, resolvedMembers? ms with
    | some u, some us => some ((k, u) :: us)
    | _, _ => none

end

mutual

/-- The document value of a TOML value. -/
def json : Toml → Json
  | string s => .string s
  | integer n fits => .number (.int n ⟨fits.1, by omega⟩)
  | float (.finite x) => .number (.double x)
  | float x => .string x.text
  | boolean b => .bool b
  | datetime d => .string (String.ofList d.chars)
  | array items => .array (jsonItems items)
  | table members => .object (jsonMembers members)

/-- The document values of items. -/
def jsonItems : List Toml → List Json
  | [] => []
  | t :: ts => json t :: jsonItems ts

/-- The document values of members, under the same keys. -/
def jsonMembers : List (String × Toml) → List (String × Json)
  | [] => []
  | (k, t) :: ms => (k, json t) :: jsonMembers ms

end

end Toml

end PathQuery
