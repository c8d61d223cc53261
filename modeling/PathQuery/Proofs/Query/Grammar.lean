import Mathlib.Algebra.Group.Nat.Defs
import PathQuery.Proofs.Text.Trimming
import PathQuery.Query.Reader

/-! # The grammar of queries

Which texts a query may have, as rules of derivation.  Nothing here says how a text is
read: a rule only puts texts together.

Strength rules the predicates: a `unary` is a leaf, a negation or a predicate in
parentheses, a `conjunction` has unary operands and a `disjunction` has conjunctions, both
grouping to the left.  Blanks may stand in front of each token of a predicate.  A query is
a first item and any number of further ones, and a further name needs a point. -/
namespace PathQuery.Query.Grammar

open Text Reader

/-! ### Tokens -/

/-- What stands between two quotes, and the string it stands for.  A backslash takes the
next character as it is. -/
inductive Inside : List Char → List Char → Prop where
  | nil : Inside [] []
  | plain {c : Char} {w x : List Char} (hq : c ≠ '"') (hb : c ≠ '\\') (h : Inside w x) :
      Inside (c :: w) (c :: x)
  | escaped (c : Char) {w x : List Char} (h : Inside w x) : Inside ('\\' :: c :: w) (c :: x)

/-- A string in quotes. -/
inductive Quotation : List Char → List Char → Prop where
  | mk {w x : List Char} (h : Inside w x) : Quotation ('"' :: w ++ ['"']) x

/-- A key: a row of name characters, or any string in quotes. -/
inductive Key : List Char → String → Prop where
  | bare {w : List Char} (hne : w ≠ []) (h : ∀ c ∈ w, Word.isNameChar c = true) :
      Key w (String.ofList w)
  | quoted {w x : List Char} (h : Quotation w x) : Key w (String.ofList x)

/-- The signs of the operators. -/
inductive Sign : List Char → Operator → Prop where
  | eq : Sign ['='] (some .eq)
  | ne : Sign ['<', '>'] (some .ne)
  | notEq : Sign ['!', '='] (some .ne)
  | gt : Sign ['>'] (some .gt)
  | lt : Sign ['<'] (some .lt)
  | ge : Sign ['>', '='] (some .ge)
  | le : Sign ['<', '='] (some .le)
  | like : Sign ['~', '='] none

/-- A literal: any string in quotes, or a row of characters that end no literal. -/
inductive Constant : List Char → Literal → Prop where
  | quoted {w x : List Char} (h : Quotation w x) : Constant w (.quoted x)
  | bare {w : List Char} (hne : w ≠ []) (h : ∀ c ∈ w, Word.isDelimiter c = false) :
      Constant w (.bare w)

/-! ### Predicates -/

/-- How strongly a predicate holds together. -/
inductive Strength where
  | unary
  | conjunction
  | disjunction
  deriving DecidableEq, Repr

/-- The texts of predicates.  The literal after `~=` has to be a pattern that compiles. -/
inductive Condition : Strength → List Char → Predicate → Prop where
  | not {b w : List Char} {p : Predicate} (hb : Blanks b) (h : Condition .unary w p) :
      Condition .unary (b ++ '!' :: w) (.not p)
  | paren {b w t : List Char} {p : Predicate} (hb : Blanks b) (h : Condition .disjunction w p)
      (ht : Blanks t) : Condition .unary (b ++ '(' :: (w ++ t ++ [')'])) p
  | has {b w : List Char} {k : String} (hb : Blanks b) (hk : Key w k) :
      Condition .unary (b ++ w) (.has k)
  | compare {b w t s u v : List Char} {k : String} {op : Comparison} {l : Literal}
      (hb : Blanks b) (hk : Key w k) (ht : Blanks t) (hs : Sign s (some op)) (hu : Blanks u)
      (hl : Constant v l) : Condition .unary (b ++ w ++ t ++ s ++ u ++ v) (.compare k op l.value)
  | like {b w t s u v : List Char} {k : String} {l : Literal} {q : Pattern}
      (hb : Blanks b) (hk : Key w k) (ht : Blanks t) (hs : Sign s none) (hu : Blanks u)
      (hl : Constant v l) (hq : Pattern.compile? l.text = some q) :
      Condition .unary (b ++ w ++ t ++ s ++ u ++ v) (.like k q)
  | operand {w : List Char} {p : Predicate} (h : Condition .unary w p) :
      Condition .conjunction w p
  | and {w t v : List Char} {p q : Predicate} (hp : Condition .conjunction w p) (ht : Blanks t)
      (hq : Condition .unary v q) : Condition .conjunction (w ++ t ++ '&' :: v) (.and p q)
  | term {w : List Char} {p : Predicate} (h : Condition .conjunction w p) :
      Condition .disjunction w p
  | or {w t v : List Char} {p q : Predicate} (hp : Condition .disjunction w p) (ht : Blanks t)
      (hq : Condition .conjunction v q) : Condition .disjunction (w ++ t ++ '|' :: v) (.or p q)

/-! ### Items -/

/-- The inside of a bracket that picks by place: digits alone, with blanks around them. -/
inductive Ordinal : List Char → List Char → Prop where
  | mk {b ds t : List Char} (hb : Blanks b) (hne : ds ≠ []) (hds : ∀ c ∈ ds, isDigit c = true)
      (ht : Blanks t) : Ordinal (b ++ ds ++ t) ds

/-- What is inside a bracket.  A place has to fit 64 bits; a place that does not is no
predicate either. -/
inductive Selector : List Char → Step → Prop where
  | nth {w ds : List Char} (h : Ordinal w ds) (hfits : Decimal.digitsValue ds < 2 ^ 64) :
      Selector w (.nth (Decimal.digitsValue ds))
  | filter {w t : List Char} {p : Predicate} (h : Condition .disjunction w p) (ht : Blanks t)
      (hplace : ∀ ds, ¬ Ordinal (w ++ t) ds) : Selector (w ++ t) (.filter p)

/-- What stands in front of a name. -/
def lead (first : Bool) : List Char := if first then [] else ['.']

/-- One item of a query; `first` tells that nothing stands before it. -/
inductive Item (first : Bool) : List Char → Step → Prop where
  | descend {w : List Char} {k : String} (h : Key w k) : Item first (lead first ++ w) (.descend k)
  | spread : Item first (lead first ++ ['*']) .spread
  | search {w : List Char} {k : String} (h : Key w k) : Item first ('.' :: '.' :: w) (.search k)
  | bracket {w : List Char} {s : Step} (h : Selector w s) : Item first ('[' :: w ++ [']']) s

/-- Any number of further items. -/
inductive Further : List Char → List Step → Prop where
  | nil : Further [] []
  | cons {w v : List Char} {s : Step} {ss : List Step} (h : Item false w s) (hs : Further v ss) :
      Further (w ++ v) (s :: ss)

/-- A first item and further ones. -/
inductive Items : List Char → List Step → Prop where
  | mk {w v : List Char} {s : Step} {ss : List Step} (h : Item true w s) (hs : Further v ss) :
      Items (w ++ v) (s :: ss)

/-- The texts, without blanks around them, of the queries that have steps.  A single point
may stand in front. -/
inductive Derives : List Char → Query → Prop where
  | plain {t : List Char} {ss : List Step} (h : Items t ss) : Derives t ⟨ss⟩
  | pointed {t : List Char} {ss : List Step} (hdots : ¬ ['.', '.'] <+: '.' :: t)
      (h : Items t ss) : Derives ('.' :: t) ⟨ss⟩

/-- The texts of all queries: nothing at all and a point alone have no steps. -/
def Accepts (t : List Char) (q : Query) : Prop :=
  (t = [] ∨ t = ['.']) ∧ q.steps = [] ∨ Derives t q

end PathQuery.Query.Grammar
