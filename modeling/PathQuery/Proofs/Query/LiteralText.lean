import PathQuery.Proofs.Number.NumeralText
import PathQuery.Proofs.Query.Grammar

/-! # Literals are read back

A literal stands for a scalar, but not for every number: whole numbers beyond the signed
64-bit range are read as doubles.  `IsLiteral` holds of the values that are left, every
literal has one of them (`isLiteral_value`), and the canonical text of each of them is a
literal for it (`exists_constant`).  Names are always read back (`key_nameChars`). -/
namespace PathQuery
namespace Word

open Text Query Query.Reader Query.Grammar

/-- The values that literals have. -/
def IsLiteral : Json → Prop
  | .null | .bool _ | .string _ => True
  | .number (.int n _) => Number.fitsSigned n = true
  | .number (.double _) => True
  | .array _ | .object _ => False

/-! ### The values of literals -/

theorem isLiteral_of_number? {s : List Char} {n : Number} (h : number? s = some n) :
    IsLiteral (.number n) := by
  unfold number? at h
  split at h
  · rename_i i hi
    obtain ⟨-, hfits⟩ := Option.filter_eq_some_iff.mp hi
    unfold Number.ofInt? at h
    split at h
    · injection h with h
      subst h
      exact hfits
    · cases h
  · obtain ⟨x, -, rfl⟩ := Option.map_eq_some_iff.mp h
    trivial

theorem isLiteral_typed (s : List Char) : IsLiteral (typed s).value := by
  unfold typed
  split
  · trivial
  · split
    · trivial
    · split
      · trivial
      · split
        · rename_i n hn
          exact isLiteral_of_number? hn
        · trivial

theorem isLiteral_value (l : Literal) : IsLiteral l.value.value := by
  cases l with
  | quoted s => trivial
  | bare s => exact isLiteral_typed s

/-- A bare literal that is a string is its own text. -/
theorem eq_of_typed_string {s : List Char} {t : String} (h : (typed s).value = .string t) :
    s = t.toList := by
  unfold typed at h
  split at h
  · cases h
  · split at h
    · cases h
    · split at h
      · cases h
      · split at h
        · cases h
        · injection h with h
          rw [← h, String.toList_ofList]

/-! ### Numbers -/

theorem number?_double (x : Double) :
    number? (Number.double x).chars = some (.double x) ∧
      ∀ c ∈ (Number.double x).chars, Decimal.isNumeralChar c = true := by
  obtain ⟨p, hp, hpart, hdouble⟩ := Decimal.exists_parts Number.layout (Decimal.shortest x)
  have hchars : (Number.double x).chars = p.chars (Decimal.shortest x).negative := hp.symm
  rw [hchars]
  refine ⟨?_, p.chars_numeral _⟩
  have hread : (Decimal.read? (p.chars (Decimal.shortest x).negative)).bind Decimal.toDouble? =
      some x := by
    rw [p.read?_chars, Option.bind_some, hdouble, Decimal.toDouble?_shortest]
  simp only [number?, p.readInt?_chars _ hpart, Option.filter_none, hread, Option.map_some]

theorem number?_int {n : Int} (fits : -9223372036854775808 ≤ n ∧ n < 18446744073709551616)
    (h : Number.fitsSigned n = true) :
    number? (Number.int n fits).chars = some (.int n fits) ∧
      ∀ c ∈ (Number.int n fits).chars, Decimal.isNumeralChar c = true := by
  refine ⟨?_, fun c hc => ?_⟩
  · simp only [number?, Number.chars, Number.readInt?_intChars, Option.filter_some, h, if_true,
      Number.ofInt?, dif_pos fits]
  · rw [Number.chars, Number.intChars_eq, List.mem_append] at hc
    rcases hc with hc | hc
    · exact Decimal.signChars_numeral _ c hc
    · exact (Decimal.digits_toDigits _).numeral c hc

/-- The text of a number is read back, and looks like nothing else. -/
theorem number?_chars {n : Number} (h : IsLiteral (.number n)) :
    number? n.chars = some n ∧ ∀ c ∈ n.chars, Decimal.isNumeralChar c = true := by
  cases n with
  | int n fits => exact number?_int fits h
  | double x => exact number?_double x

theorem typed_chars {n : Number} (h : IsLiteral (.number n)) :
    (typed n.chars).value = .number n := by
  obtain ⟨hread, hchars⟩ := number?_chars h
  have hword : ∀ {w : List Char} {c : Char}, c ∈ w → Decimal.isNumeralChar c = false →
      n.chars ≠ w := by
    intro w c hc hn he
    rw [hchars c (he ▸ hc)] at hn
    cases hn
  unfold typed
  rw [if_neg (hword (c := 't') (by decide) (by decide)),
    if_neg (hword (c := 'f') (by decide) (by decide)),
    if_neg (hword (c := 'n') (by decide) (by decide)), hread]

/-- The characters of numerals end no literal. -/
theorem isDelimiter_of_isNumeralChar {c : Char} (h : Decimal.isNumeralChar c = true) :
    isDelimiter c = false := by
  simp only [Decimal.isNumeralChar, Bool.or_eq_true, List.contains_iff_mem, List.mem_cons,
    List.not_mem_nil, or_false] at h
  rcases h with h | rfl | rfl | rfl | rfl
  · exact isDelimiter_of_isDigit h
  all_goals decide

/-! ### The text of names and literals -/

theorem inside_escape (s : List Char) : Inside (s.flatMap Quoted.escape) s := by
  induction s with
  | nil => exact .nil
  | cons c s ih =>
    rw [List.flatMap_cons]
    unfold Quoted.escape
    split
    · exact .escaped c ih
    · rename_i h
      exact .plain (fun hc => h (.inl hc)) (fun hc => h (.inr hc)) ih

theorem quotation_write (s : List Char) : Quotation (Quoted.write s) s := .mk (inside_escape s)

/-- The text of a name is a key for it. -/
theorem key_nameChars (k : String) : Key (nameChars k) k := by
  unfold nameChars
  split
  · rename_i h
    simp only [isBareName, Bool.and_eq_true, Bool.not_eq_true', List.isEmpty_eq_false_iff] at h
    have hkey := Key.bare h.1.1 (List.all_eq_true.mp h.1.2)
    rwa [String.ofList_toList] at hkey
  · have hkey := Key.quoted (quotation_write k.toList)
    rwa [String.ofList_toList] at hkey

theorem constant_bare {w : List Char} (hne : w ≠ []) (h : w.any isDelimiter = false) :
    Constant w (.bare w) :=
  .bare hne fun c hc => Bool.eq_false_iff.mpr (List.any_eq_false.mp h c hc)

theorem exists_constant_string (s : String) :
    ∃ l, Constant (literalChars (.string s)) l ∧ l.value.value = .string s := by
  simp only [literalChars]
  split
  · rename_i h
    simp only [isBareString, Bool.and_eq_true, Bool.not_eq_true', List.isEmpty_eq_false_iff] at h
    obtain ⟨⟨hne, hbare⟩, htyped⟩ := h
    refine ⟨.bare s.toList, constant_bare hne hbare, ?_⟩
    split at htyped
    · rename_i t ht
      have hs : s = t := String.toList_inj.mp (eq_of_typed_string ht)
      exact hs ▸ ht
    · cases htyped
  · refine ⟨.quoted s.toList, .quoted (quotation_write _), ?_⟩
    simp [Literal.value, Document.ofString]

theorem exists_constant_number {n : Number} (h : IsLiteral (.number n)) :
    ∃ l, Constant (literalChars (.number n)) l ∧ l.value.value = .number n := by
  obtain ⟨hread, hchars⟩ := number?_chars h
  have hne : n.chars ≠ [] := by
    intro he
    rw [he] at hread
    cases hread
  exact ⟨.bare n.chars, .bare hne fun c hc => isDelimiter_of_isNumeralChar (hchars c hc),
    typed_chars h⟩

/-- The text of a literal's value is a literal for it. -/
theorem exists_constant {e : Document} (h : IsLiteral e.value) :
    ∃ l, Constant (literalChars e.value) l ∧ l.value = e := by
  obtain ⟨v, hv⟩ := e
  obtain ⟨l, hl, hvalue⟩ : ∃ l, Constant (literalChars v) l ∧ l.value.value = v := by
    cases v with
    | null => exact ⟨.bare _, constant_bare (by decide) (by decide), rfl⟩
    | bool b => cases b <;> exact ⟨.bare _, constant_bare (by decide) (by decide), rfl⟩
    | number n => exact exists_constant_number h
    | string s => exact exists_constant_string s
    | array => exact h.elim
    | object => exact h.elim
  refine ⟨l, hl, ?_⟩
  subst hvalue
  rfl

end Word

end PathQuery
