import PathQuery.Entry.Basic
import PathQuery.Json.Inspect

/-! # Inspecting entries

The text that shows an entry's name, place and value. -/
namespace PathQuery.Entry

/-- A place, or that there is none. -/
def inspectIndex : Option Nat → List Char
  | none => "None".toList
  | some i => "Some(".toList ++ Nat.toDigits 10 i ++ [')']

/-- The text that shows the make-up of an entry. -/
def inspect (e : Entry) : String :=
  String.ofList <|
    "Entry \x7b name: ".toList ++ Json.inspectString e.name.text ++ ", index: ".toList ++
      inspectIndex e.index ++ ", value: ".toList ++ e.value.inspect ++ " \x7d".toList

end PathQuery.Entry
