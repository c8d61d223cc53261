import PathQuery.Proofs.Document.Path
import PathQuery.Toml.Basic

/-! # TOML trees as document trees

A TOML value and the document value it turns into have the same paths, and the nodes at one path
correspond (`Toml.Corresponds`): a table to an object of the same keys in the same order, an array
to an array of the same length, a scalar to the same scalar or to its text.  As the correspondence
says nothing below a node, it has to hold at every path; that it does comes from the hops
(`Toml.hop?_json`).

A value with neither dates nor times nor numbers that are not finite can be had back from its
document value (`Json.toml?`), so no two of them turn into the same one. -/
namespace PathQuery

namespace Toml

theorem jsonItems_eq_map (ts : List Toml) : jsonItems ts = ts.map json := by
  induction ts with
  | nil => rfl
  | cons t ts ih => rw [jsonItems, ih, List.map_cons]

theorem jsonMembers_eq_map (ms : List (String × Toml)) :
    jsonMembers ms = ms.map fun m => (m.1, m.2.json) := by
  induction ms with
  | nil => rfl
  | cons m ms ih => rw [jsonMembers, ih, List.map_cons]

theorem keys_jsonMembers (ms : List (String × Toml)) :
    (jsonMembers ms).map Prod.fst = ms.map Prod.fst := by
  rw [jsonMembers_eq_map, List.map_map]
  rfl

/-! ### Nodes at paths -/

/-- The value that one hop leads to. -/
def hop? : Hop → Toml → Option Toml
  | .key k, table members => members.lookup k
  | .place i, array items => items[i]?
  | _, _ => none

/-- The node at the end of a path. -/
def node? : Path → Toml → Option Toml
  | [], t => some t
  | h :: p, t => (t.hop? h).bind (node? p)

theorem lookup_jsonMembers (ms : List (String × Toml)) (k : String) :
    (jsonMembers ms).lookup k = (ms.lookup k).map json := by
  induction ms with
  | nil => rfl
  | cons m ms ih =>
    obtain ⟨key, t⟩ := m
    rw [jsonMembers, List.lookup_cons, List.lookup_cons]
    cases k == key with
    | true => rfl
    | false => exact ih

theorem hop?_json (h : Hop) (t : Toml) : t.json.hop? h = (t.hop? h).map json := by
  cases h with
  | key k =>
    cases t with
    | table ms => exact lookup_jsonMembers ms k
    | float x => cases x <;> rfl
    | _ => rfl
  | place i =>
    cases t with
    | array ts =>
      show (jsonItems ts)[i]? = ts[i]?.map json
      rw [jsonItems_eq_map, List.getElem?_map]
    | float x => cases x <;> rfl
    | _ => rfl

/-- A path leads in the document value to what its node turns into. -/
theorem node?_json (p : Path) (t : Toml) : t.json.node? p = (t.node? p).map json := by
  induction p generalizing t with
  | nil => rfl
  | cons h p ih =>
    rw [Json.node?, node?, hop?_json]
    cases t.hop? h with
    | none => rfl
    | some u => exact ih u

/-! ### Corresponding nodes -/

/-- A node and what stands in its place in a document.  Of tables and arrays only the keys and
the length are compared, not what they hold. -/
inductive Corresponds : Toml → Json → Prop
  | table {ms : List (String × Toml)} {vs : List (String × Json)}
      (keys : vs.map Prod.fst = ms.map Prod.fst) : Corresponds (.table ms) (.object vs)
  | array {ts : List Toml} {vs : List Json} (length : vs.length = ts.length) :
      Corresponds (.array ts) (.array vs)
  | string (s : String) : Corresponds (.string s) (.string s)
  | integer (n : Int) (fits : -9223372036854775808 ≤ n ∧ n < 9223372036854775808)
      (fits' : -9223372036854775808 ≤ n ∧ n < 18446744073709551616) :
      Corresponds (.integer n fits) (.number (.int n fits'))
  | boolean (b : Bool) : Corresponds (.boolean b) (.bool b)
  | finite (x : Double) : Corresponds (.float (.finite x)) (.number (.double x))
  | notFinite (x : Floating) (h : ∀ y, x ≠ .finite y) : Corresponds (.float x) (.string x.text)
  | datetime (d : Datetime) : Corresponds (.datetime d) (.string (String.ofList d.chars))

theorem corresponds_json (t : Toml) : Corresponds t t.json := by
  cases t with
  | table ms => exact .table (keys_jsonMembers ms)
  | array ts =>
    refine .array ?_
    rw [jsonItems_eq_map, List.length_map]
  | string s => exact .string s
  | integer n fits => exact .integer n fits _
  | boolean b => exact .boolean b
  | datetime d => exact .datetime d
  | float x =>
    cases x with
    | finite x => exact .finite x
    | infinite negative => exact .notFinite (.infinite negative) nofun
    | notANumber negative => exact .notFinite (.notANumber negative) nofun

/-- At every path there is a node of the TOML value just if there is one of the document value,
and the two correspond. -/
theorem node?_corresponds (t : Toml) (p : Path) :
    Option.Rel Corresponds (t.node? p) (t.json.node? p) := by
  rw [node?_json]
  cases t.node? p with
  | none => exact .none
  | some u => exact .some (corresponds_json u)

theorem Corresponds.ne_null {t : Toml} {v : Json} (h : Corresponds t v) : v ≠ .null := by
  rintro rfl
  cases h

/-- What is reached from a document value by children is again the document value of something. -/
theorem exists_json_of_reaches {t : Toml} {e : Entry} (h : (Entry.root t.json).Reaches e) :
    ∃ u : Toml, e.value = u.json := by
  induction h with
  | refl => exact ⟨t, rfl⟩
  | @tail e c _ hc ih =>
    obtain ⟨u, hu⟩ := ih
    obtain ⟨name, index, v⟩ := e
    obtain rfl : v = u.json := hu
    cases u with
    | table ms =>
      obtain ⟨m, hm, rfl⟩ := List.mem_map.mp hc
      rw [jsonMembers_eq_map] at hm
      obtain ⟨⟨k, w⟩, -, rfl⟩ := List.mem_map.mp hm
      exact ⟨w, rfl⟩
    | array ts =>
      obtain ⟨i, v, hv, rfl⟩ := Entry.mem_elements.mp hc
      rw [jsonItems_eq_map, List.getElem?_map] at hv
      obtain ⟨w, -, rfl⟩ := Option.map_eq_some_iff.mp hv
      exact ⟨w, rfl⟩
    | float x => cases x <;> cases hc
    | _ => cases hc

theorem ne_null_of_reaches {t : Toml} {e : Entry} (h : (Entry.root t.json).Reaches e) :
    e.value ≠ .null := by
  obtain ⟨u, hu⟩ := exists_json_of_reaches h
  rw [hu]
  exact (corresponds_json u).ne_null

end Toml

/-! ### Back to TOML -/

namespace Json

mutual

/-- The TOML value that has the given document value and neither dates nor times in it, nor
numbers that are not finite.  There is none for null and for integers out of range. -/
def toml? : Json → Option Toml
  | null => none
  | bool b => some (.boolean b)
  | number (.int n _) => Toml.ofInt? n
  | number (.double x) => some (.float (.finite x))
  | string s => some (.string s)
  | array items => (tomlItems? items).map .array
  | object members => (tomlMembers? members).map .table

/-- The TOML values that have the given document values. -/
def tomlItems? : List Json → Option (List Toml)
  | [] => some []
  | v :: vs =>
    match toml? v, tomlItems? vs with
    | some t, some ts => some (t :: ts)
    | _, _ => none

/-- The TOML members that have the given members. -/
def tomlMembers? : List (String × Json) → Option (List (String × Toml))
  | [] => some []
  | (k, v) :: ms =>
    match toml? v, tomlMembers? ms with
    | some t, some ts => some ((k, t) :: ts)
    | _, _ => none

end

end Json

namespace Toml

mutual

/-- Whether nothing in the value becomes text: it has neither dates nor times in it, nor numbers
that are not finite. -/
def isDirect : Toml → Bool
  | string _ | integer _ _ | boolean _ => true
  | float (.finite _) => true
  | float _ | datetime _ => false
  | array items => areDirectItems items
  | table members => areDirectMembers members

/-- Whether all items are direct. -/
def areDirectItems : List Toml → Bool
  | [] => true
  | t :: ts => isDirect t && areDirectItems ts

/-- Whether the values of all members are direct. -/
def areDirectMembers : List (String × Toml) → Bool
  | [] => true
  | (_, t) :: ms => isDirect t && areDirectMembers ms

end

mutual

theorem toml?_json : ∀ {t : Toml}, t.isDirect = true → t.json.toml? = some t
  | string _, _ => rfl
  | boolean _, _ => rfl
  | float (.finite _), _ => rfl
  | float (.infinite _), h | float (.notANumber _), h | datetime _, h => Bool.noConfusion h
  | integer n fits, _ => by
    show ofInt? n = some (integer n fits)
    rw [ofInt?, dif_pos fits]
  | array ts, h => by
    show (Json.tomlItems? (jsonItems ts)).map array = some (array ts)
    rw [tomlItems?_jsonItems h]
    rfl
  | table ms, h => by
    show (Json.tomlMembers? (jsonMembers ms)).map table = some (table ms)
    rw [tomlMembers?_jsonMembers h]
    rfl

theorem tomlItems?_jsonItems :
    ∀ {ts : List Toml}, areDirectItems ts = true → Json.tomlItems? (jsonItems ts) = some ts
  | [], _ => rfl
  | t :: ts, h => by
    obtain ⟨ht, hts⟩ : t.isDirect = true ∧ areDirectItems ts = true := by
      simpa only [areDirectItems, Bool.and_eq_true] using h
    rw [jsonItems, Json.tomlItems?, toml?_json ht, tomlItems?_jsonItems hts]

theorem tomlMembers?_jsonMembers :
    ∀ {ms : List (String × Toml)}, areDirectMembers ms = true →
      Json.tomlMembers? (jsonMembers ms) = some ms
  | [], _ => rfl
  | (k, t) :: ms, h => by
    obtain ⟨ht, hms⟩ : t.isDirect = true ∧ areDirectMembers ms = true := by
      simpa only [areDirectMembers, Bool.and_eq_true] using h
    rw [jsonMembers, Json.tomlMembers?, toml?_json ht, tomlMembers?_jsonMembers hms]

end

theorem json_inj {t u : Toml} (ht : t.isDirect = true) (hu : u.isDirect = true) :
    t.json = u.json ↔ t = u := by
  constructor
  · intro h
    have h' : some t = some u := by rw [← toml?_json ht, ← toml?_json hu, h]
    exact Option.some.inj h'
  · rintro rfl
    rfl

end Toml

end PathQuery
