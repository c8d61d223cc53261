import PathQuery.Query.Basic
import PathQuery.Query.Word

/-! # Reading queries

The reader of queries.  A query is a row of items: names, wildcards, searches and
brackets.  A bracket with digits alone holds a place, any other a predicate; predicates
have disjunction, conjunction and negation in order of rising strength, and parentheses.
Blanks may stand around all parts of a predicate.

Each reader hands back a shorter rest or says what it expected and where. -/
namespace PathQuery.Query.Reader

open Text

/-- The text after the blanks it starts with. -/
def skipBlank (s : List Char) : NoLonger s := ⟨trimStart s, length_trimStart_le s⟩

/-- A quoted string without its opening quote. -/
def quoted (s : List Char) : Except Error (List Char × Shorter s) :=
  match Quoted.read? s with
  | some p => .ok p
  | none => .error (.query (.unterminated ('"' :: s)))

/-- A name as written: a key, or the wildcard, which is never quoted. -/
inductive Written where
  | key (k : String)
  | wildcard
  deriving DecidableEq, Repr

/-- A name or the wildcard. -/
def name (s : List Char) : Except Error (Written × Shorter s) :=
  match s with
  | [] => .error (.query (.expected .fieldName []))
  | c :: r =>
    if c = '"' then
      match quoted r with
      | .error e => .error e
      | .ok (k, t) => .ok (.key (String.ofList k), t.cons)
    else if c = '*' then .ok (.wildcard, .tail r)
    else if Word.isNameChar c then
      .ok (.key (String.ofList (c :: r.takeWhile Word.isNameChar)),
        (skipWhile Word.isNameChar r).shorterCons)
    else .error (.query (.expected .fieldName (c :: r)))

/-! ### Predicates -/

/-- The operator between a field and a literal: a comparison, or `none` for a match with
a pattern. -/
abbrev Operator := Option Comparison

/-- The operators as they are written, the longer before the shorter. -/
def operators : List (List Char × Operator) := [
  (['~', '='], none),
  (['<', '>'], some .ne),
  (['!', '='], some .ne),
  (['>', '='], some .ge),
  (['<', '='], some .le),
  (['='], some .eq),
  (['>'], some .gt),
  (['<'], some .lt)]

/-- An operator from a list taken off the front, if there is one. -/
def operatorOf? : (ops : List (List Char × Operator)) → (s : List Char) →
    Option (Operator × NoLonger s)
  | [], _ => none
  | (w, o) :: ops, s =>
    match afterWord? w s with
    | some r => some (o, r)
    | none => operatorOf? ops s

/-- A literal as written. -/
inductive Literal where
  | quoted (s : List Char)
  | bare (s : List Char)
  deriving DecidableEq, Repr

namespace Literal

/-- The value of a literal: quoted ones are strings. -/
def value : Literal → Document
  | quoted s => .ofString (String.ofList s)
  | bare s => Word.typed s

/-- The text of a literal. -/
def text : Literal → String
  | quoted s => String.ofList s
  | bare s => String.ofList s

end Literal

/-- A literal. -/
def literal (s : List Char) : Except Error (Literal × Shorter s) :=
  match s with
  | [] => .error (.query (.expected .value []))
  | c :: r =>
    if c = '"' then
      match quoted r with
      | .error e => .error e
      | .ok (x, t) => .ok (.quoted x, t.cons)
    else if Word.isDelimiter c then .error (.query (.expected .value (c :: r)))
    else
      .ok (.bare (c :: r.takeWhile fun d => !Word.isDelimiter d),
        (skipWhile (fun d => !Word.isDelimiter d) r).shorterCons)

/-- The predicate that a field, an operator and a literal form. -/
def comparison (field : String) (o : Operator) (l : Literal) : Except Error Predicate :=
  match o with
  | some op => .ok (.compare field op l.value)
  | none =>
    match Predicate.matching? field l.text with
    | some p => .ok p
    | none => .error .pattern

/-- A field with an operator and a literal, or alone. -/
def leaf (s : List Char) : Except Error (Predicate × Shorter s) :=
  match name s with
  | .error e => .error e
  | .ok (.wildcard, _) => .error (.query (.expected .fieldName s))
  | .ok (.key field, ⟨r, hr⟩) =>
    match skipBlank r with
    | ⟨t, ht⟩ =>
      match operatorOf? operators t with
      | none => .ok (.has field, ⟨r, hr⟩)
      | some (o, ⟨u, hu⟩) =>
        match skipBlank u with
        | ⟨v, hv⟩ =>
          match literal v with
          | .error e => .error e
          | .ok (l, w) =>
            (comparison field o l).map fun p =>
              (p, (((w.transLe hv).transLe hu).transLe ht).trans hr)

mutual

/-- A negation, a predicate in parentheses or a leaf. -/
def unary (s : List Char) : Except Error (Predicate × Shorter s) :=
  match skipBlank s with
  | ⟨t, ht⟩ =>
    match afterChar? '!' t with
    | some ⟨r, hr⟩ =>
      match unary r with
      | .error e => .error e
      | .ok (p, u) => .ok (.not p, (u.trans hr).transLe ht)
    | none =>
      match afterChar? '(' t with
      | some ⟨r, hr⟩ =>
        match disjunction r with
        | .error e => .error e
        | .ok (p, ⟨u, hu⟩) =>
          match skipBlank u with
          | ⟨v, hv⟩ =>
            match afterChar? ')' v with
            | some w => .ok (p, (((w.transLe hv).trans hu).trans hr).transLe ht)
            | none => .error (.query (.expected .closingParen v))
      | none =>
        match leaf t with
        | .error e => .error e
        | .ok (p, u) => .ok (p, u.transLe ht)
termination_by (s.length, 0)
decreasing_by all_goals exact Prod.Lex.left _ _ (Nat.lt_of_lt_of_le hr ht)

/-- Unary predicates with `&` between them. -/
def conjunction (s : List Char) : Except Error (Predicate × Shorter s) :=
  match unary s with
  | .error e => .error e
  | .ok (p, ⟨r, hr⟩) =>
    match conjunctionRest p r with
    | .error e => .error e
    | .ok (q, t) => .ok (q, t.shorter hr)
termination_by (s.length, 2)
decreasing_by
  · exact Prod.Lex.right _ (by decide)
  · exact Prod.Lex.left _ _ hr

/-- What follows the first operands of a conjunction, `p`. -/
def conjunctionRest (p : Predicate) (s : List Char) : Except Error (Predicate × NoLonger s) :=
  match skipBlank s with
  | ⟨t, ht⟩ =>
    match afterChar? '&' t with
    | none => .ok (p, .self s)
    | some ⟨r, hr⟩ =>
      match unary r with
      | .error e => .error e
      | .ok (q, ⟨u, hu⟩) =>
        match conjunctionRest (.and p q) u with
        | .error e => .error e
        | .ok (q, v) => .ok (q, ((v.trans hu).trans hr).transLe ht)
termination_by (s.length, 1)
decreasing_by
  · exact Prod.Lex.left _ _ (Nat.lt_of_lt_of_le hr ht)
  · exact Prod.Lex.left _ _ (Nat.lt_trans hu (Nat.lt_of_lt_of_le hr ht))

/-- Conjunctions with `|` between them. -/
def disjunction (s : List Char) : Except Error (Predicate × Shorter s) :=
  match conjunction s with
  | .error e => .error e
  | .ok (p, ⟨r, hr⟩) =>
    match disjunctionRest p r with
    | .error e => .error e
    | .ok (q, t) => .ok (q, t.shorter hr)
termination_by (s.length, 3)
decreasing_by
  · exact Prod.Lex.right _ (by decide)
  · exact Prod.Lex.left _ _ hr

/-- What follows the first operands of a disjunction, `p`. -/
def disjunctionRest (p : Predicate) (s : List Char) : Except Error (Predicate × NoLonger s) :=
  match skipBlank s with
  | ⟨t, ht⟩ =>
    match afterChar? '|' t with
    | none => .ok (p, .self s)
    | some ⟨r, hr⟩ =>
      match conjunction r with
      | .error e => .error e
      | .ok (q, ⟨u, hu⟩) =>
        match disjunctionRest (.or p q) u with
        | .error e => .error e
        | .ok (q, v) => .ok (q, ((v.trans hu).trans hr).transLe ht)
termination_by (s.length, 1)
decreasing_by
  · exact Prod.Lex.left _ _ (Nat.lt_of_lt_of_le hr ht)
  · exact Prod.Lex.left _ _ (Nat.lt_trans hu (Nat.lt_of_lt_of_le hr ht))

end

/-! ### Items -/

/-- Digits alone before a closing bracket, with blanks around them. -/
def place? (s : List Char) : Option (List Char × Shorter s) :=
  match skipBlank s with
  | ⟨t, ht⟩ =>
    match takeDigits t with
    | (ds, ⟨u, hu⟩) =>
      match skipBlank u with
      | ⟨v, hv⟩ =>
        match ds, afterChar? ']' v with
        | _ :: _, some w => some (ds, ((w.transLe hv).transLe hu).transLe ht)
        | _, _ => none

/-- The inside of a bracket and the bracket that closes it. -/
def selector (s : List Char) : Except Error (Step × Shorter s) :=
  match place? s with
  | some (ds, ⟨r, hr⟩) =>
    if Decimal.digitsValue ds < Nat.pow 2 64 then .ok (.nth (Decimal.digitsValue ds), ⟨r, hr⟩)
    else .error (.query (.invalidIndex ds))
  | none =>
    match skipBlank s with
    | ⟨t, ht⟩ =>
      match disjunction t with
      | .error e => .error e
      | .ok (p, ⟨r, hr⟩) =>
        match skipBlank r with
        | ⟨u, hu⟩ =>
          match afterChar? ']' u with
          | some v => .ok (.filter p, ((v.transLe hu).trans hr).transLe ht)
          | none => .error (.query (.expected .closingBracket u))

/-- The step of a name that is descended to. -/
def Written.step : Written → Step
  | key k => .descend k
  | wildcard => .spread

/-- One item.  Every item but the first needs a point before a name; `query` is the
whole text. -/
def item (query : List Char) (first : Bool) (s : List Char) : Except Error (Step × Shorter s) :=
  match afterWord? ['.', '.'] s, afterChar? '[' s with
  | some ⟨r, hr⟩, _ =>
    match name r with
    | .error e => .error e
    | .ok (.wildcard, _) => .error (.query (.wildcardAfterFind query))
    | .ok (.key k, t) => .ok (.search k, t.transLe hr)
  | none, some ⟨r, hr⟩ =>
    match selector r with
    | .error e => .error e
    | .ok (step, t) => .ok (step, t.trans hr)
  | none, none =>
    if first then
      match name s with
      | .error e => .error e
      | .ok (w, t) => .ok (w.step, t)
    else
      match afterChar? '.' s with
      | none => .error (.query (.expected .separator s))
      | some ⟨r, hr⟩ =>
        match name r with
        | .error e => .error e
        | .ok (w, t) => .ok (w.step, t.trans hr)

/-- Items up to the end of the text. -/
def items (query : List Char) (first : Bool) (s : List Char) : Except Error (List Step) :=
  match s with
  | [] => .ok []
  | c :: r =>
    match item query first (c :: r) with
    | .error e => .error e
    | .ok (step, ⟨t, _ht⟩) =>
      match items query false t with
      | .error e => .error e
      | .ok steps => .ok (step :: steps)
termination_by s.length
decreasing_by exact _ht

/-- The text without the single point that it may start with. -/
def dropPoint : List Char → List Char
  | '.' :: '.' :: s => '.' :: '.' :: s
  | '.' :: s => s
  | s => s

end Reader

/-- The query of a text without blanks around it.  Nothing at all, or a point alone, has
no steps. -/
def readTrimmed (s : List Char) : Except Error Query :=
  match Reader.items s true (Reader.dropPoint s) with
  | .error e => .error e
  | .ok steps => .ok ⟨steps⟩

/-- The query of a text. -/
def read (s : String) : Except Error Query := readTrimmed (Text.trim s.toList)

end PathQuery.Query
