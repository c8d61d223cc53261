import PathQuery.Json.Reader
import PathQuery.Proofs.Number.LeadingDigits
import PathQuery.Proofs.Text.Taking

/-! # Numbers are read back

The reader of JSON numbers takes the sign, the digits, the fraction and the exponent off one
after the other.  From the text of a number it takes just the parts that were written
(`Json.Reader.taken_number?_chars`), and these stand for this number: an integer has neither
fraction nor exponent and a double has one of them (`Json.Reader.exists_parts_chars`).  What
follows must not go on with the number. -/
namespace PathQuery

namespace Decimal.Parts

variable (p : Parts)

/-- The exponent, if one is written. -/
def exponent? : Option Int := if p.tail = [] then none else some p.power

theorem exponent?_eq_none_iff : p.exponent? = none ↔ p.tail = [] := by
  simp [exponent?]

theorem getD_exponent? : p.exponent?.getD 0 = p.power := by
  have hread := p.tail_reads
  unfold exponent?
  split
  · rename_i h
    rw [h, readExponent?, Option.some.injEq] at hread
    exact hread
  · rfl

/-- A number's text starts with its sign or its first digit. -/
theorem exists_front (negative : Bool) :
    ∃ c s, p.chars negative = c :: s ∧ (c = '-' ∨ Text.isDigit c = true) := by
  cases negative with
  | true => exact ⟨'-', _, rfl, .inl rfl⟩
  | false =>
    obtain ⟨d, ds, hw⟩ := List.exists_cons_of_ne_nil p.whole_ne
    refine ⟨d, ds ++ (fractionChars p.fraction ++ p.tail), ?_, .inr ?_⟩
    · simp [Parts.chars, signChars, hw]
    · exact p.whole_digits d (by simp [hw])

end Decimal.Parts

namespace Json.Reader

open Text Decimal

/-! ### The readers of the parts -/

theorem taken_fraction?_eq (s : List Char) :
    taken (fraction? s) =
      match after? '.' s with
      | none => some ([], s)
      | some r =>
        if r.takeWhile isDigit = [] then none
        else some (r.takeWhile isDigit, r.dropWhile isDigit) := by
  unfold fraction? after?
  cases afterChar? '.' s with
  | none => rfl
  | some r =>
    simp only [takeDigits, skipWhile, Option.map_some]
    exact apply_ite taken _ _ _

theorem exponentSign_eq (s : List Char) :
    ((exponentSign s).1, (exponentSign s).2.1) = takeSign s := by
  rcases s with _ | ⟨c, r⟩
  · rfl
  · by_cases hm : c = '-'
    · subst hm; rfl
    · by_cases hp : c = '+'
      · subst hp; rfl
      · simp [exponentSign, afterChar?, takeSign, hm, hp]

theorem taken_exponent?_eq (s : List Char) :
    taken (exponent? s) =
      match (after? 'e' s).or (after? 'E' s) with
      | none => some (none, s)
      | some r =>
        let t := takeSign r
        if t.2.takeWhile isDigit = [] then none
        else some (some (signed t.1 (digitsValue (t.2.takeWhile isDigit))),
          t.2.dropWhile isDigit) := by
  unfold exponent? after?
  rw [← Option.map_or]
  cases (afterChar? 'e' s).or (afterChar? 'E' s) with
  | none => rfl
  | some r =>
    simp only [takeDigits, skipWhile, Option.map_some, ← exponentSign_eq]
    exact apply_ite taken _ _ _

theorem taken_unsigned?_eq (negative : Bool) (s : List Char) :
    taken (unsigned? negative s) =
      (taken (wholeDigits? s)).bind fun x =>
        (taken (fraction? x.2)).bind fun y =>
          (taken (exponent? y.2)).bind fun z =>
            (numberOfParts? negative x.1 y.1 z.1).map fun n => (number n, z.2) := by
  unfold unsigned?
  cases wholeDigits? s with
  | none => rfl
  | some x =>
    simp only [taken_some, Option.bind_some]
    cases fraction? x.2.1 with
    | none => rfl
    | some y =>
      simp only [taken_some, Option.bind_some]
      cases exponent? y.2.1 with
      | none => rfl
      | some z =>
        simp only [taken_some, Option.bind_some]
        cases numberOfParts? negative x.1 y.1 z.1 <;> rfl

theorem taken_number?_eq (s : List Char) :
    taken (number? s) =
      match after? '-' s with
      | some r => taken (unsigned? true r)
      | none => taken (unsigned? false s) := by
  unfold number? after?
  cases afterChar? '-' s with
  | none => rfl
  | some r =>
    simp only [Option.map_some]
    cases unsigned? true r.1 <;> rfl

/-! ### The parts of a number -/

theorem takeSign_append {s : List Char} (hs : s ≠ []) (r : List Char) :
    takeSign (s ++ r) = ((takeSign s).1, (takeSign s).2 ++ r) := by
  obtain ⟨c, s, rfl⟩ := List.exists_cons_of_ne_nil hs
  by_cases hm : c = '-'
  · subst hm; rfl
  · by_cases hp : c = '+'
    · subst hp; rfl
    · simp [takeSign, hm, hp]

/-- Whether a number that stands before `c` would go on with it. -/
def continuesNumber (c : Char) : Bool := isDigit c || ['.', 'e', 'E'].contains c

theorem stops_digits {r : List Char} (h : Stops continuesNumber r) : Stops isDigit r :=
  fun c hc => (Bool.or_eq_false_iff.mp (h c hc)).1

theorem after?_of_stops {r : List Char} (h : Stops continuesNumber r) {c : Char}
    (hc : continuesNumber c = true) : after? c r = none := by
  cases r with
  | nil => rfl
  | cons d r =>
    refine after?_of_ne ?_ r
    rintro rfl
    rw [h d rfl] at hc
    cases hc

theorem taken_wholeDigits? {w r : List Char} (hne : w ≠ []) (hw : Digits w)
    (hzero : w.head? = some '0' → w = ['0']) (hr : Stops isDigit r) :
    taken (wholeDigits? (w ++ r)) = some (w, r) := by
  obtain ⟨d, ds, rfl⟩ := List.exists_cons_of_ne_nil hne
  have hds : ∀ c ∈ ds, isDigit c = true := fun c hc => hw c (List.mem_cons_of_mem d hc)
  have hfirst : isDigit d = true ∧ (d ≠ '0' ∨ ds = []) := by
    refine ⟨hw d List.mem_cons_self, ?_⟩
    by_cases hd : d = '0'
    · exact .inr (List.cons.inj (hzero (congrArg some hd))).2
    · exact .inl hd
  simp only [List.cons_append, wholeDigits?, takeDigits, skipWhile, takeWhile_run hds hr,
    dropWhile_run hds hr, if_pos hfirst, taken_some, NoLonger.val_shorterCons]

theorem taken_fraction? {f r : List Char} (hf : Digits f) (hr : Stops isDigit r)
    (hpoint : after? '.' r = none) : taken (fraction? (fractionChars f ++ r)) = some (f, r) := by
  rw [taken_fraction?_eq]
  by_cases hnil : f = []
  · simp [fractionChars, hnil, hpoint]
  · simp only [fractionChars, if_neg hnil, List.cons_append, after?_self, takeWhile_run hf hr,
      dropWhile_run hf hr]

theorem taken_exponent? {tail r : List Char} {e : Int} (h : readExponent? tail = some e)
    (hr : Stops continuesNumber r) :
    taken (exponent? (tail ++ r)) = some (if tail = [] then none else some e, r) := by
  rw [taken_exponent?_eq]
  cases tail with
  | nil =>
    rw [List.nil_append, after?_of_stops hr (by decide), after?_of_stops hr (by decide)]
    rfl
  | cons c s =>
    have hmark : c = 'e' ∨ c = 'E' := by
      by_contra hc
      simp [readExponent?, hc] at h
    simp only [readExponent?, if_pos hmark, readInt?] at h
    have hafter : (after? 'e' (c :: s ++ r)).or (after? 'E' (c :: s ++ r)) = some (s ++ r) := by
      rcases hmark with rfl | rfl <;> simp [after?_of_ne]
    split at h
    · rename_i hdigits
      obtain ⟨hne, hall⟩ := hdigits
      have hrun : ∀ c ∈ (takeSign s).2, isDigit c = true := List.all_eq_true.mp hall
      have hs : s ≠ [] := by
        rintro rfl
        exact hne rfl
      simp only [hafter, takeSign_append hs, takeWhile_run hrun (stops_digits hr),
        dropWhile_run hrun (stops_digits hr), if_neg hne, List.cons_ne_nil, if_false]
      rw [h]
    · cases h

/-- A sign is taken off in front of a digit. -/
theorem taken_number?_signChars (negative : Bool) {s : List Char}
    (hs : ∀ c ∈ s.head?, isDigit c = true) :
    taken (number? (signChars negative ++ s)) = taken (unsigned? negative s) := by
  rw [taken_number?_eq]
  cases negative with
  | true => rfl
  | false =>
    rcases s with _ | ⟨c, r⟩
    · rfl
    · have hc := (ne_of_isDigit (hs c rfl)).1
      have hafter : after? '-' (signChars false ++ c :: r) = none := after?_of_ne hc r
      rw [hafter]
      rfl

/-- The parts of a number's text are read apart. -/
theorem taken_number?_chars (p : Parts) (hp : p.Plain) (negative : Bool) {r : List Char}
    (hr : Stops continuesNumber r) :
    taken (number? (p.chars negative ++ r)) =
      (numberOfParts? negative p.whole p.fraction p.exponent?).map fun n => (number n, r) := by
  have hfraction := stops_append p.fraction_stops (stops_digits hr)
  have htail := stops_append p.tail_stops (stops_digits hr)
  rw [List.append_assoc] at hfraction
  have hpoint : after? '.' (p.tail ++ r) = none := by
    rcases p.tail_cases with h | ⟨c, t, h, hc⟩
    · rw [h]
      exact after?_of_stops hr (by decide)
    · rw [h]
      refine after?_of_ne ?_ _
      rcases hc with rfl | rfl <;> decide
  have hfront : ∀ c ∈ (p.whole ++ (fractionChars p.fraction ++ (p.tail ++ r))).head?,
      isDigit c = true := by
    intro c hc
    rw [List.head?_append_of_ne_nil _ p.whole_ne] at hc
    exact p.whole_digits c (List.mem_of_mem_head? hc)
  have hchars : p.chars negative ++ r =
      signChars negative ++ (p.whole ++ (fractionChars p.fraction ++ (p.tail ++ r))) := by
    simp only [Parts.chars, List.append_assoc]
  rw [hchars, taken_number?_signChars negative hfront]
  simp only [taken_unsigned?_eq, taken_wholeDigits? p.whole_ne p.whole_digits hp hfraction,
    Option.bind_some, taken_fraction? p.fraction_digits htail hpoint,
    taken_exponent? p.tail_reads hr, Parts.exponent?]

theorem numberOfParts?_double {p : Parts} (h : p.fraction ≠ [] ∨ p.tail ≠ []) (negative : Bool) :
    numberOfParts? negative p.whole p.fraction p.exponent? =
      (p.decimal negative).toDouble?.map Number.double := by
  unfold numberOfParts?
  rw [p.getD_exponent?]
  split
  · rename_i hf he
    exact (h.elim (fun h => h hf) fun h => h (p.exponent?_eq_none_iff.mp he)).elim
  · rfl

/-! ### Numbers of parts -/

/-- The parts of a whole number's text. -/
def wholeParts (n : Nat) : Parts where
  whole := Nat.toDigits 10 n
  fraction := []
  tail := []
  power := 0
  whole_ne := Nat.toDigits_ne_nil
  whole_digits := digits_toDigits n
  fraction_digits := fun _ h => nomatch h
  tail_reads := rfl
  tail_chars := fun _ h => nomatch h

theorem plain_wholeParts (n : Nat) : (wholeParts n).Plain := by
  intro hzero
  rcases Nat.eq_zero_or_pos n with rfl | hn
  · rfl
  · exact absurd hzero (head?_toDigits_ne hn)

theorem numberOfParts?_int {n : Int}
    (fits : -9223372036854775808 ≤ n ∧ n < 18446744073709551616) :
    numberOfParts? (n < 0) (Nat.toDigits 10 n.natAbs) [] none = some (.int n fits) := by
  have hzero : ¬(n < 0 ∧ n.natAbs = 0) := by omega
  simp only [numberOfParts?, digitsValue_toDigits, Number.signed_natAbs, Number.ofInt?,
    dif_pos fits, Option.some_or, decide_eq_true_eq, if_neg hzero]

/-- A number's text consists of parts that are read as this number. -/
theorem exists_parts_chars (n : Number) :
    ∃ (p : Parts) (negative : Bool), n.chars = p.chars negative ∧ p.Plain ∧
      numberOfParts? negative p.whole p.fraction p.exponent? =
        some n := by
  cases n with
  | int n fits =>
    refine ⟨wholeParts n.natAbs, n < 0, ?_, plain_wholeParts _, numberOfParts?_int fits⟩
    simp [Number.chars, Number.intChars_eq, Parts.chars, wholeParts, fractionChars]
  | double x =>
    obtain ⟨p, hp, hpart, hdouble, hplain⟩ := exists_plain_parts Number.layout (shortest x)
    refine ⟨p, (shortest x).negative, hp.symm, hplain, ?_⟩
    rw [numberOfParts?_double hpart, hdouble, toDouble?_shortest]
    rfl

end Json.Reader

end PathQuery
