import PathQuery.Log.Event
import PathQuery.Number.Decimal
import PathQuery.Pattern.Basic
import PathQuery.Text.Blank
import PathQuery.Text.Split

/-! # Log filters

A filter is a list of directives, separated by commas.  A directive is a level, a target,
or both with an equals sign between; a target alone has all levels.  It may also name a
span in brackets, with a field in braces.  Of the directives whose target an event's target
starts with, the longest decides, and of two with the same target and field the later one.
There are no spans here, so a directive that asks for a span or for the value of a field
lets no event pass; one that asks for a field needs an event with this field. -/
namespace PathQuery.Log

open Text

/-- The rank up to which events pass: zero for none. -/
abbrev Threshold := Nat

/-- The threshold of a word: a level in letters of either case, `off`, or a number up to
five. -/
def threshold? (s : List Char) : Option Threshold :=
  let digits := match s with
    | '+' :: r => r
    | r => r
  if digits ≠ [] ∧ digits.all isDigit then
    let n := digits.foldl (fun n d => 10 * n + (d.toNat - '0'.toNat)) 0
    if n ≤ 5 then some n else none
  else
    let word := String.ofList (s.map lowerCase)
    if word = "" ∨ word = "error" then some 1
    else if word = "warn" then some 2
    else if word = "info" then some 3
    else if word = "debug" then some 4
    else if word = "trace" then some 5
    else if word = "off" then some 0
    else none

/-- A field that a directive asks for, and whether it asks for a value of it. -/
structure FieldTest where
  name : List Char
  hasValue : Bool
  deriving DecidableEq, Repr

/-- A directive. -/
structure Directive where
  target : Option (List Char)
  span : Option (List Char)
  field : Option FieldTest
  threshold : Threshold
  deriving DecidableEq, Repr

/-! ### Reading -/

/-- Where the reader of a directive is; the numbers are the places where a part began. -/
inductive Place where
  | start
  | levelOrTarget (since : Nat)
  | span (since : Nat)
  | field (since : Nat)
  | fieldEnd
  | target
  | level (since : Nat)
  deriving DecidableEq, Repr

/-- A directive that is being read: what it holds so far and where the reader is. -/
structure Draft where
  directive : Directive := ⟨none, none, none, 5⟩
  place : Place := .start
  deriving Repr

/-- The characters of a text from one place to another. -/
def slice (s : List Char) (first last : Nat) : List Char := (s.drop first).take (last - first)

/-- Whether a text names a floating-point value that has no digits, in letters of either
case and with a sign or without. -/
def isUnboundedWord (s : List Char) : Bool :=
  String.ofList ((Decimal.takeSign s).2.map lowerCase) ∈ ["inf", "infinity", "nan"]

/-- Whether a text can stand for the values of a field: a number, or a pattern that has
no condition on words of any script.  Here patterns may have any size. -/
def isFieldValue (s : List Char) : Bool :=
  (Decimal.read? s).isSome || isUnboundedWord s ||
    (Expression.read? (String.ofList s)).any (!·.looksForWords)

/-- The field that is asked for by its name, or by name and value. -/
def fieldTest? (s : List Char) : Option FieldTest :=
  if s = [] then none
  else
    match split '=' s with
    | [name] => some ⟨name, false⟩
    | name :: value :: _ => if isFieldValue value then some ⟨name, true⟩ else none
    | [] => none

/-- The draft after the character `c` at a place of the text `s`. -/
def Draft.next? (s : List Char) (d : Draft) (i : Nat) (c : Char) : Option Draft :=
  match d.place with
  | .start =>
    if c = '[' then some { d with place := .span (i + 1) }
    else if c = '-' ∨ c = ':' ∨ c = '_' ∨ isAlphanumeric c then
      some { d with place := .levelOrTarget i }
    else none
  | .levelOrTarget since =>
    if c = '=' then
      some ⟨{ d.directive with target := some (slice s since i) }, .level (i + 1)⟩
    else if c = '[' then
      some ⟨{ d.directive with target := some (slice s since i) }, .span (i + 1)⟩
    else some d
  | .span since =>
    if c = ']' then some ⟨{ d.directive with span := some (slice s since i) }, .target⟩
    else if c = '\x7b' then
      let name := slice s since i
      some ⟨{ d.directive with span := if name = [] then none else some name }, .field (i + 1)⟩
    else some d
  | .field since =>
    if c = '\x7d' then
      (fieldTest? (slice s since i)).map fun f =>
        ⟨{ d.directive with field := some f }, .fieldEnd⟩
    else some d
  | .fieldEnd => if c = ']' then some { d with place := .target } else none
  | .target => if c = '=' then some { d with place := .level (i + 1) } else none
  | .level _ => some d

/-- The directive at the end of the text `s`. -/
def Draft.finish? (s : List Char) (d : Draft) : Option Directive :=
  match d.place with
  | .levelOrTarget since =>
    let word := s.drop since
    if word = [] then some { d.directive with target := none }
    else
      match threshold? word with
      | some t => some { d.directive with threshold := t, target := none }
      | none => some { d.directive with target := some word }
  | .level since =>
    let word := s.drop since
    if word = [] then some d.directive
    else (threshold? word).map fun t => { d.directive with threshold := t }
  | .target => some d.directive
  | .start | .span _ | .field _ | .fieldEnd => none

/-- The directive of a text.  Blanks around it do not count when its parts are found, but
the places of the parts are counted from the start of the text. -/
def Directive.read? (s : List Char) : Option Directive :=
  ((trim s).zipIdx.foldlM (fun (d : Draft) p => d.next? s p.2 p.1) {}).bind (Draft.finish? s)

/-- A list of directives. -/
abbrev Filter := List Directive

namespace Filter

/-- The filter of a text.  Without directives it lets errors pass. -/
def read? (s : String) : Option Filter :=
  ((split ',' s.toList).filter (· ≠ [])).mapM Directive.read? |>.map fun ds =>
    if ds = [] then [⟨none, none, none, 1⟩] else ds

/-- The filter that lets warnings pass. -/
def warnings : Filter := [⟨none, none, none, 2⟩]

/-! ### Passing -/

/-- Whether a directive can decide about events at all. -/
def decides (d : Directive) : Bool := d.span.isNone && d.field.all (!·.hasValue)

/-- Whether a directive is about an event. -/
def isAbout (e : Event) (d : Directive) : Bool :=
  d.target.all (·.isPrefixOf e.target.toList) &&
    d.field.all fun f => e.fields.contains (String.ofList f.name)

/-- How much a directive's target asks for: one without a target asks for nothing. -/
def targetSize (d : Directive) : Nat :=
  match d.target with
  | none => 0
  | some t => t.length + 1

/-- The name of the field that a directive asks for, or nothing. -/
def fieldName (d : Directive) : List Char := (d.field.map FieldTest.name).getD []

/-- Whether `d` is at least as specific as `e`: by the size of the target, then by the
field, of which the one with the greater name counts as more specific. -/
def atLeast (d e : Directive) : Bool :=
  targetSize e < targetSize d ||
    (targetSize e == targetSize d && !decide (fieldName d < fieldName e))

/-- The most specific of directives, and the last of these. -/
def mostSpecific? (ds : List Directive) : Option Directive :=
  ds.foldl (fun best d =>
    match best with
    | some b => if atLeast d b then some d else best
    | none => some d) none

/-- Whether the filter lets an event pass. -/
def passes (f : Filter) (e : Event) : Bool :=
  match mostSpecific? (f.filter fun d => decides d && isAbout e d) with
  | some d => e.level.rank ≤ d.threshold
  | none => false

end Filter

end PathQuery.Log
