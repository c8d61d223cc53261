import PathQuery.Members
import PathQuery.Number.Basic

/-! # Decoded documents

A decoded document is a tree of objects, arrays and scalars.  The members of an
object are a list, because their order shows in every answer; `same` is the equality
that disregards it.  `Distinct` says that no object has a key twice, and `merged`
brings any tree into that form: a repeated key keeps its first place and takes its
last value. -/
namespace PathQuery

/-- A value of a document. -/
inductive Json where
  | null
  | bool (b : Bool)
  | number (n : Number)
  | string (s : String)
  | array (items : List Json)
  | object (members : List (String × Json))
  deriving Repr, Inhabited

/-- What sort of value a value is. -/
inductive Kind where
  | object
  | array
  | string
  | number
  | boolean
  | null
  deriving DecidableEq, Repr

namespace Kind

/-- Strings, numbers, booleans and null are scalars. -/
def isScalar : Kind → Bool
  | object | array => false
  | string | number | boolean | null => true

/-- The word for a kind. -/
def text : Kind → String
  | object => "object"
  | array => "array"
  | string => "string"
  | number => "number"
  | boolean => "boolean"
  | null => "null"

end Kind

namespace Json

open Members

/-- The kind of a value. -/
def kind : Json → Kind
  | null => .null
  | bool _ => .boolean
  | number _ => .number
  | string _ => .string
  | array _ => .array
  | object _ => .object

/-- Whether the value is a scalar. -/
def isScalar (v : Json) : Bool := v.kind.isScalar

/-- The member stored under `key`, if the value is an object that has it. -/
def member? (key : String) : Json → Option Json
  | object members => members.lookup key
  | _ => none

/-- The value of an integer. -/
def ofInt (n : Int) (fits : -9223372036854775808 ≤ n ∧ n < 18446744073709551616 := by decide) :
    Json := .number (.int n fits)

/-! ### Equality that disregards the order of members -/

mutual

/-- Whether two values are the same, the members of objects taken in any order. -/
def same : Json → Json → Bool
  | null, null => true
  | bool a, bool b => a == b
  | number a, number b => a.same b
  | string a, string b => a == b
  | array xs, array ys => sameItems xs ys
  | object ms, object ns => ms.length == ns.length && sameMembers ms ns
  | _, _ => false

/-- Whether two lists of items are the same, one by one. -/
def sameItems : List Json → List Json → Bool
  | [], [] => true
  | x :: xs, y :: ys => same x y && sameItems xs ys
  | _, _ => false

/-- Whether each member on the left has one of the same key and value on the right. -/
def sameMembers : List (String × Json) → List (String × Json) → Bool
  | [], _ => true
  | (k, v) :: ms, ns =>
    (match ns.lookup k with
      | some w => same v w
      | none => false) && sameMembers ms ns

end

/-! ### One value for each key -/

mutual

/-- No object in the value has a key twice. -/
def Distinct : Json → Prop
  | array xs => DistinctItems xs
  | object ms => (ms.map Prod.fst).Nodup ∧ DistinctMembers ms
  | _ => True

/-- No object in any of the items has a key twice. -/
def DistinctItems : List Json → Prop
  | [] => True
  | x :: xs => Distinct x ∧ DistinctItems xs

/-- No object in any of the members' values has a key twice. -/
def DistinctMembers : List (String × Json) → Prop
  | [] => True
  | (_, v) :: ms => Distinct v ∧ DistinctMembers ms

end

mutual

/-- The value with repeated keys merged. -/
def merged : Json → Json
  | array xs => array (mergedItems xs)
  | object ms => object (collect (mergedMembers ms))
  | v => v

/-- Items with repeated keys merged inside them. -/
def mergedItems : List Json → List Json
  | [] => []
  | x :: xs => merged x :: mergedItems xs

/-- Members with repeated keys merged inside their values. -/
def mergedMembers : List (String × Json) → List (String × Json)
  | [] => []
  | (k, v) :: ms => (k, merged v) :: mergedMembers ms

end

/-! ### Merged values have distinct keys -/

theorem distinctMembers_put (key : String) {value : Json} (hv : value.Distinct)
    {ms : List (String × Json)} (h : DistinctMembers ms) : DistinctMembers (put key value ms) := by
  induction ms with
  | nil => exact ⟨hv, trivial⟩
  | cons m ms ih =>
    obtain ⟨k, v⟩ := m
    by_cases hk : k = key
    · simpa [put, hk, DistinctMembers] using And.intro hv h.2
    · simpa [put, hk, DistinctMembers] using And.intro h.1 (ih h.2)

theorem distinctMembers_collect {ms : List (String × Json)} (h : DistinctMembers ms) :
    DistinctMembers (collect ms) := by
  suffices ∀ acc, DistinctMembers acc →
      DistinctMembers (ms.foldl (fun acc m => put m.1 m.2 acc) acc) from this [] trivial
  induction ms with
  | nil => exact fun _ h => h
  | cons m ms ih => exact fun acc ha => ih h.2 _ (distinctMembers_put m.1 h.1 ha)

mutual

theorem distinct_merged : ∀ v : Json, v.merged.Distinct
  | null | bool _ | number _ | string _ => trivial
  | array xs => distinct_mergedItems xs
  | object ms =>
    ⟨nodup_keys_collect _, distinctMembers_collect (distinctMembers_mergedMembers ms)⟩

theorem distinct_mergedItems : ∀ xs : List Json, DistinctItems (mergedItems xs)
  | [] => trivial
  | x :: xs => ⟨distinct_merged x, distinct_mergedItems xs⟩

theorem distinctMembers_mergedMembers :
    ∀ ms : List (String × Json), DistinctMembers (mergedMembers ms)
  | [] => trivial
  | (_, v) :: ms => ⟨distinct_merged v, distinctMembers_mergedMembers ms⟩

end

/-! ### Values with distinct keys are merged -/

mutual

/-- In a value without repeated keys there is nothing to merge. -/
theorem merged_of_distinct : ∀ {v : Json}, v.Distinct → v.merged = v
  | null, _ | bool _, _ | number _, _ | string _, _ => rfl
  | array xs, h => by
    show array (mergedItems xs) = array xs
    rw [mergedItems_of_distinct h]
  | object ms, h => by
    obtain ⟨hkeys, hvalues⟩ := h
    show object (Members.collect (mergedMembers ms)) = object ms
    rw [mergedMembers_of_distinct hvalues, Members.collect_of_nodup hkeys]

theorem mergedItems_of_distinct : ∀ {xs : List Json}, DistinctItems xs → mergedItems xs = xs
  | [], _ => rfl
  | x :: xs, h => by rw [mergedItems, merged_of_distinct h.1, mergedItems_of_distinct h.2]

theorem mergedMembers_of_distinct :
    ∀ {ms : List (String × Json)}, DistinctMembers ms → mergedMembers ms = ms
  | [], _ => rfl
  | (k, v) :: ms, h => by
    rw [mergedMembers, merged_of_distinct h.1, mergedMembers_of_distinct h.2]

end

end Json

end PathQuery
