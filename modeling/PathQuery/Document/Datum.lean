import PathQuery.Error
import PathQuery.Json.Document
import PathQuery.Number.Floating

/-! # Structured data

The data of a program, and how it becomes a document.  Integers have to fit 64 bits,
numbers that are not finite become null, and the keys of maps become text if they are
scalars of a kind that has one. -/
namespace PathQuery

/-- A piece of data. -/
inductive Datum where
  | unit
  | absent
  | present (d : Datum)
  | bool (b : Bool)
  | integer (n : Int)
  | float (x : Floating)
  | char (c : Char)
  | text (s : String)
  | bytes (bs : List UInt8)
  | variant (name : String)
  | wrapped (name : String) (d : Datum)
  | sequence (ds : List Datum)
  | map (entries : List (Datum × Datum))
  deriving Inhabited

namespace Datum

/-- The text of a datum that is used as a key. -/
def key? : Datum → Option String
  | bool b => some (if b then "true" else "false")
  | integer n => some (String.ofList (Number.intChars n))
  | float (.finite x) => some (Floating.finite x).text
  | char c => some (String.singleton c)
  | text s => some s
  | variant name => some name
  | _ => none

/-- The value of a byte. -/
def ofByte (b : UInt8) : Json :=
  .number (.int b.toNat (by have := b.toNat_lt; omega))

mutual

/-- The value of a datum. -/
def json? : Datum → Option Json
  | unit | absent => some .null
  | present d => d.json?
  | bool b => some (.bool b)
  | integer n => (Number.ofInt? n).map .number
  | float (.finite x) => some (.number (.double x))
  | float _ => some .null
  | char c => some (.string (String.singleton c))
  | text s => some (.string s)
  | bytes bs => some (.array (bs.map ofByte))
  | variant name => some (.string name)
  | wrapped name d => d.json?.map fun v => .object [(name, v)]
  | sequence ds => (jsonItems? ds).map .array
  | map entries => (jsonEntries? entries).map .object

/-- The values of the items of a sequence. -/
def jsonItems? : List Datum → Option (List Json)
  | [] => some []
  | d :: ds => do
    let v ← d.json?
    let vs ← jsonItems? ds
    return v :: vs

/-- The entries of a map as members. -/
def jsonEntries? : List (Datum × Datum) → Option (List (String × Json))
  | [] => some []
  | (k, d) :: es => do
    let k ← k.key?
    let v ← d.json?
    let ms ← jsonEntries? es
    return (k, v) :: ms

end

end Datum

/-- The document of a datum. -/
def Document.ofDatum (d : Datum) : Except Error Document :=
  match d.json? with
  | some v => .ok (.ofJson v)
  | none => .error .notJson

end PathQuery
