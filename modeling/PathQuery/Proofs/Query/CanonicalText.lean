import PathQuery.Proofs.Query.AcceptedTexts
import PathQuery.Proofs.Query.LiteralText
import PathQuery.Query.Text

/-! # Canonical text is read back

The canonical text of a query that was read is read as the same query.  No reader is
looked at here: the grammar derives the canonical text (`accepts_chars`), and
`readTrimmed_eq_ok_iff` says that what it derives is read.

Not every query has a text.  One that has is `Writable`: the values it compares with are
values of literals, and its places fit 64 bits.  Whatever is read is writable.

Where the canonical text sets parentheses is justified by `strength`: an operand is in
parentheses just if it does not hold together as strongly as its place asks for. -/
namespace PathQuery

open Text Query Query.Reader Query.Grammar

/-! ### What can be read -/

/-- Whether every value that the predicate compares with is the value of a literal. -/
def Predicate.Writable : Predicate → Prop
  | .compare _ _ expected => Word.IsLiteral expected.value
  | .like _ _ | .has _ => True
  | .and p q | .or p q => p.Writable ∧ q.Writable
  | .not p => p.Writable

/-- Whether the step has a text. -/
def Step.Writable : Step → Prop
  | .filter p => p.Writable
  | .nth i => i < 2 ^ 64
  | .descend _ | .spread | .search _ => True

/-- Whether every step of the query has a text. -/
def Query.Writable (q : Query) : Prop := ∀ s ∈ q.steps, s.Writable

namespace Query

theorem writable_of_condition {l : Strength} {w : List Char} {p : Predicate}
    (h : Condition l w p) : p.Writable := by
  induction h with
  | not _ _ ih => exact ih
  | paren _ _ _ ih => exact ih
  | has => trivial
  | @compare b w t s u v k op l => exact Word.isLiteral_value l
  | like => trivial
  | operand _ ih => exact ih
  | and _ _ _ ihp ihq => exact ⟨ihp, ihq⟩
  | term _ ih => exact ih
  | or _ _ _ ihp ihq => exact ⟨ihp, ihq⟩

theorem writable_of_item {first : Bool} {w : List Char} {s : Step} (h : Item first w s) :
    s.Writable := by
  cases h with
  | descend => trivial
  | spread => trivial
  | search => trivial
  | bracket h =>
    cases h with
    | nth _ hfits => exact hfits
    | filter h => exact writable_of_condition h

theorem writable_of_further {v : List Char} {ss : List Step} (h : Further v ss) :
    ∀ s ∈ ss, s.Writable := by
  induction h with
  | nil => exact fun s hs => nomatch hs
  | cons hw _ ih =>
    intro s hs
    rcases List.mem_cons.mp hs with rfl | hs
    · exact writable_of_item hw
    · exact ih s hs

theorem writable_of_items {t : List Char} {ss : List Step} (h : Items t ss) :
    ∀ s ∈ ss, s.Writable := by
  obtain ⟨hw, hv⟩ := h
  intro s hs
  rcases List.mem_cons.mp hs with rfl | hs
  · exact writable_of_item hw
  · exact writable_of_further hv s hs

theorem writable_of_accepts {t : List Char} {q : Query} (h : Accepts t q) : q.Writable := by
  rcases h with ⟨-, hq⟩ | h
  · intro s hs
    rw [hq] at hs
    cases hs
  · cases h with
    | plain h => exact writable_of_items h
    | pointed _ h => exact writable_of_items h

/-! ### Predicates -/

/-- How strongly the canonical text of a predicate holds together. -/
def strength : Predicate → Strength
  | .or _ _ => .disjunction
  | .and _ _ => .conjunction
  | _ => .unary

theorem condition_conjunction {w : List Char} {p : Predicate} (h : Condition (strength p) w p)
    (hp : p.isOr = false) : Condition .conjunction w p := by
  cases p with
  | or => cases hp
  | and => exact h
  | compare => exact .operand h
  | like => exact .operand h
  | has => exact .operand h
  | not => exact .operand h

theorem condition_disjunction {w : List Char} {p : Predicate} (h : Condition (strength p) w p) :
    Condition .disjunction w p := by
  by_cases hp : p.isOr = false
  · exact .term (condition_conjunction h hp)
  · cases p with
    | or => exact h
    | _ => exact absurd rfl hp

theorem condition_unary {w : List Char} {p : Predicate} (h : Condition (strength p) w p)
    (hp : p.isBinary = false) : Condition .unary w p := by
  cases p with
  | or => cases hp
  | and => cases hp
  | compare => exact h
  | like => exact h
  | has => exact h
  | not => exact h

/-- Parentheses make a text hold together, whatever is inside. -/
theorem condition_parens {w : List Char} {p : Predicate} (h : Condition (strength p) w p) :
    Condition .unary ('(' :: w ++ [')']) p := by
  simpa using Condition.paren blanks_nil (condition_disjunction h) blanks_nil

theorem condition_parenthesized_unary {w : List Char} {p : Predicate}
    (h : Condition (strength p) w p) :
    Condition .unary (Predicate.parenthesized p.isBinary w) p := by
  cases hp : p.isBinary with
  | true => exact condition_parens h
  | false => exact condition_unary h hp

theorem condition_parenthesized_conjunction {w : List Char} {p : Predicate}
    (h : Condition (strength p) w p) :
    Condition .conjunction (Predicate.parenthesized p.isOr w) p := by
  cases hp : p.isOr with
  | true => exact .operand (condition_parens h)
  | false => exact condition_conjunction h hp

theorem sign_chars (op : Comparison) : Sign op.chars (some op) := by
  cases op <;> constructor

/-- The grammar derives the canonical text of a predicate. -/
theorem condition_chars {p : Predicate} (h : p.Writable) : Condition (strength p) p.chars p := by
  induction p with
  | compare k op e =>
    obtain ⟨l, hl, rfl⟩ := Word.exists_constant h
    simpa [Predicate.chars, strength] using
      Condition.compare blanks_nil (Word.key_nameChars k) blanks_nil (sign_chars op) blanks_nil hl
  | like k m =>
    have hl : Constant (Quoted.write m.source.toList) (.quoted m.source.toList) :=
      .quoted (Word.quotation_write _)
    have hm : Pattern.compile? (Literal.quoted m.source.toList).text = some m := by
      rw [Literal.text, String.ofList_toList]
      exact m.compile?_source
    simpa [Predicate.chars, strength] using
      Condition.like blanks_nil (Word.key_nameChars k) blanks_nil .like blanks_nil hl hm
  | has k => simpa [Predicate.chars, strength] using Condition.has blanks_nil (Word.key_nameChars k)
  | and p q ihp ihq =>
    have hp := condition_parenthesized_conjunction (ihp h.1)
    have hq := (condition_parenthesized_unary (ihq h.2)).blanks_append blanks_space
    simpa [Predicate.chars, strength] using Condition.and hp blanks_space hq
  | or p q ihp ihq =>
    have hp := condition_disjunction (ihp h.1)
    have hq := (condition_parenthesized_conjunction (ihq h.2)).blanks_append blanks_space
    simpa [Predicate.chars, strength] using Condition.or hp blanks_space hq
  | not p ih =>
    simpa [Predicate.chars, strength] using
      Condition.not blanks_nil (condition_parenthesized_unary (ih h))

/-! ### Brackets -/

/-- Digits alone are never the canonical text of a predicate: as a name they are quoted. -/
theorem not_ordinal_chars {p : Predicate} (h : p.Writable) (ds : List Char) :
    ¬ Ordinal p.chars ds := by
  intro hord
  obtain ⟨hds, hchars⟩ := ordinal_chars hord
  have hcond := condition_disjunction (condition_chars h)
  obtain ⟨rfl, -⟩ := has_of_ordinal hcond blanks_nil hord
    (show p.chars ++ [] ++ [']'] = p.chars ++ [']'] by rw [List.append_nil])
  -- so the text is that of the test for a field, which is in quotes
  have hbare : Word.isBareName ds = false := by
    have hall : ds.all isDigit = true := List.all_eq_true.mpr hds
    simp [Word.isBareName, hall]
  have hquote : '"' ∈ (Predicate.has (String.ofList ds)).chars := by
    simp [Predicate.chars, Word.nameChars, hbare, Quoted.write]
  rcases hchars '"' hquote with hq | hq
  · exact absurd hq (by decide)
  · exact absurd hq (by decide)

theorem selector_nth {i : Nat} (h : i < 2 ^ 64) : Selector (Nat.toDigits 10 i) (.nth i) := by
  have hord : Ordinal (Nat.toDigits 10 i) (Nat.toDigits 10 i) := by
    simpa using Ordinal.mk blanks_nil Nat.toDigits_ne_nil (Decimal.digits_toDigits i) blanks_nil
  have hsel := Selector.nth hord (by rwa [Decimal.digitsValue_toDigits])
  rwa [Decimal.digitsValue_toDigits] at hsel

theorem selector_filter {p : Predicate} (h : p.Writable) : Selector p.chars (.filter p) := by
  have hsel := Selector.filter (condition_disjunction (condition_chars h)) blanks_nil
    (by simpa using not_ordinal_chars h)
  simpa using hsel

/-! ### Items -/

theorem item_stepChars {s : Step} (h : s.Writable) (first : Bool) :
    Item first (stepChars first s) s := by
  cases s with
  | descend k => exact .descend (Word.key_nameChars k)
  | spread => exact .spread
  | search k => exact .search (Word.key_nameChars k)
  | filter p => exact .bracket (selector_filter h)
  | nth i => exact .bracket (selector_nth h)

theorem further_stepChars {ss : List Step} (h : ∀ s ∈ ss, s.Writable) :
    Further (ss.flatMap (stepChars false)) ss := by
  induction ss with
  | nil => exact .nil
  | cons s ss ih =>
    rw [List.flatMap_cons]
    exact .cons (item_stepChars (h s List.mem_cons_self) false)
      (ih fun t ht => h t (List.mem_cons_of_mem _ ht))

/-- The grammar derives the canonical text of a query. -/
theorem accepts_chars {q : Query} (h : q.Writable) : Accepts q.chars q := by
  obtain ⟨ss⟩ := q
  cases ss with
  | nil => exact .inl ⟨.inr rfl, rfl⟩
  | cons s ss =>
    exact .inr (.plain (.mk (item_stepChars (h s List.mem_cons_self) true)
      (further_stepChars fun t ht => h t (List.mem_cons_of_mem _ ht))))

/-! ### Blanks around the text -/

theorem solid_of_forall {w : List Char} (hne : w ≠ []) (h : ∀ c ∈ w, isBlank c = false) :
    Solid w where
  front := by
    obtain ⟨c, r, rfl⟩ := List.exists_cons_of_ne_nil hne
    exact ⟨c, r, h c List.mem_cons_self, rfl⟩
  back := by
    obtain ⟨r, c, rfl⟩ := (List.eq_nil_or_concat w).resolve_left hne
    exact ⟨r, c, h c (by simp), List.concat_eq_append⟩

theorem solid_key {w : List Char} {k : String} (h : Key w k) : Solid w := by
  cases h with
  | bare hne hw => exact solid_of_forall hne fun c hc => Word.not_isBlank_of_isNameChar (hw c hc)
  | quoted hq =>
    obtain @⟨v, _, -⟩ := hq
    exact ⟨⟨'"', _, by decide, rfl⟩, ⟨'"' :: v, '"', by decide, rfl⟩⟩

theorem solid_item {first : Bool} {w : List Char} {s : Step} (h : Item first w s) : Solid w := by
  have hpoint : Solid ['.'] := solid_of_forall (by decide) (by simp; decide)
  cases h with
  | @descend w k hk =>
    cases first with
    | true => exact solid_key hk
    | false => exact solid_append hpoint (solid_key hk)
  | spread =>
    cases first <;> exact solid_of_forall (by decide) (by simp [lead]; decide)
  | search hk => exact solid_append hpoint (solid_append hpoint (solid_key hk))
  | @bracket w _ _ => exact ⟨⟨'[', _, by decide, rfl⟩, ⟨'[' :: w, ']', by decide, rfl⟩⟩

theorem solid_further {v : List Char} {ss : List Step} (h : Further v ss) {w : List Char}
    (hw : Solid w) : Solid (w ++ v) := by
  induction h generalizing w with
  | nil => simpa using hw
  | cons h _ ih =>
    rw [← List.append_assoc]
    exact ih (solid_append hw (solid_item h))

theorem solid_of_derives {t : List Char} {q : Query} (h : Derives t q) : Solid t := by
  have hitems : ∀ {t ss}, Items t ss → Solid t := fun ⟨hw, hv⟩ => solid_further hv (solid_item hw)
  cases h with
  | plain h => exact hitems h
  | pointed _ h =>
    exact solid_append (solid_of_forall (w := ['.']) (by decide) (by simp; decide)) (hitems h)

/-- There are no blanks around a text that is accepted. -/
theorem trim_of_accepts {t : List Char} {q : Query} (h : Accepts t q) : trim t = t := by
  rcases h with ⟨rfl | rfl, -⟩ | h
  · rfl
  · decide
  · exact trim_of_solid (solid_of_derives h)

/-- The canonical text of a query that has one is read as the query. -/
theorem read_text_of_writable {q : Query} (h : q.Writable) : read q.text = .ok q := by
  rw [read, text, String.toList_ofList, trim_of_accepts (accepts_chars h)]
  exact readTrimmed_eq_ok_iff.mpr (accepts_chars h)

/-- Whatever text a query was read from, its canonical text is read as the same query. -/
theorem read_text_of_read {s : String} {q : Query} (h : read s = .ok q) : read q.text = .ok q :=
  read_text_of_writable (writable_of_accepts (readTrimmed_eq_ok_iff.mp h))

theorem read_text_of_read_pointed :
    read " .a[ 7 ] " = .ok ⟨[.descend "a", .nth 7]⟩ ∧
      read (text ⟨[.descend "a", .nth 7]⟩) = .ok ⟨[.descend "a", .nth 7]⟩ := by
  have hkey : Key ['a'] "a" := .bare (by decide) (by simp; decide)
  have hplace : Selector [' ', '7', ' '] (.nth 7) :=
    .nth (.mk blanks_space (by decide) (by simp; decide) blanks_space : Ordinal _ ['7']) (by decide)
  have hitems : Items ['a', '[', ' ', '7', ' ', ']'] [.descend "a", .nth 7] :=
    .mk (.descend hkey) (.cons (.bracket hplace) .nil)
  have htrim : trim " .a[ 7 ] ".toList = ['.', 'a', '[', ' ', '7', ' ', ']'] := by decide
  have hread : read " .a[ 7 ] " = .ok ⟨[.descend "a", .nth 7]⟩ := by
    rw [read, htrim]
    exact readTrimmed_eq_ok_iff.mpr (.inr (.pointed (by decide) hitems))
  exact ⟨hread, read_text_of_read hread⟩

end Query

end PathQuery
