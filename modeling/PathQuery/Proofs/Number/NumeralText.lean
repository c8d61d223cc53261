import PathQuery.Proofs.Number.Shortest
import PathQuery.Proofs.Text.Trimming

/-! # The text of a numeral reads back

However a numeral is laid out, its text has digits, a fraction or none, and an exponent or
none: `Parts` holds these, and `read?_chars` says what is read from them.  The text of a
numeral may be read as another numeral than the one that was written, but it is a rescaling
of it, so both stand for the same double (`exists_parts`). -/
namespace PathQuery
namespace Decimal

open Text

/-- The fraction of a numeral, with the point before it. -/
def fractionChars (ds : List Char) : List Char := if ds = [] then [] else '.' :: ds

/-- The characters of numerals. -/
def isNumeralChar (c : Char) : Bool := isDigit c || ['-', '+', '.', 'e'].contains c

theorem Digits.numeral {s : List Char} (h : Digits s) : ∀ c ∈ s, isNumeralChar c = true :=
  fun c hc => by simp [isNumeralChar, h c hc]

theorem signChars_numeral (negative : Bool) : ∀ c ∈ signChars negative, isNumeralChar c = true := by
  cases negative <;> simp [signChars]
  decide

/-- The parts of a numeral's text after its sign. -/
structure Parts where
  whole : List Char
  fraction : List Char
  tail : List Char
  power : Int
  whole_ne : whole ≠ []
  whole_digits : Digits whole
  fraction_digits : Digits fraction
  tail_reads : readExponent? tail = some power
  tail_chars : ∀ c ∈ tail, isNumeralChar c = true

namespace Parts

variable (p : Parts) (negative : Bool)

/-- The text of the parts. -/
def chars : List Char := signChars negative ++ (p.whole ++ (fractionChars p.fraction ++ p.tail))

/-- The numeral that the parts write. -/
def decimal : Decimal :=
  ⟨negative, digitsValue (p.whole ++ p.fraction), p.power - p.fraction.length⟩

/-- An exponent, if there is one, starts with its mark. -/
theorem tail_cases : p.tail = [] ∨ ∃ c r, p.tail = c :: r ∧ (c = 'e' ∨ c = 'E') := by
  rcases h : p.tail with _ | ⟨c, r⟩
  · exact .inl rfl
  · refine .inr ⟨c, r, rfl, ?_⟩
    have hr := p.tail_reads
    rw [h] at hr
    by_contra hc
    simp [readExponent?, hc] at hr

theorem tail_stops : Stops isDigit p.tail := by
  rcases p.tail_cases with h | ⟨c, r, h, rfl | rfl⟩ <;> rw [h]
  · exact stops_nil _
  · exact stops_cons (by decide) r
  · exact stops_cons (by decide) r

theorem takeFraction_tail : takeFraction (fractionChars p.fraction ++ p.tail) =
    (p.fraction, p.tail) := by
  by_cases hf : p.fraction = []
  · rw [fractionChars, if_pos hf, List.nil_append, hf]
    rcases p.tail_cases with h | ⟨c, r, h, rfl | rfl⟩ <;> rw [h] <;> rfl
  · rw [fractionChars, if_neg hf, List.cons_append]
    simp only [takeFraction]
    rw [takeWhile_run p.fraction_digits p.tail_stops, dropWhile_run p.fraction_digits p.tail_stops]

theorem fraction_stops : Stops isDigit (fractionChars p.fraction ++ p.tail) := by
  by_cases hf : p.fraction = []
  · rw [fractionChars, if_pos hf]
    exact p.tail_stops
  · rw [fractionChars, if_neg hf]
    exact stops_cons (by decide) _

theorem takeSign_chars : takeSign (p.chars negative) =
    (negative, p.whole ++ (fractionChars p.fraction ++ p.tail)) := by
  refine takeSign_signChars negative fun c hc => ?_
  obtain ⟨d, w, hw⟩ := List.exists_cons_of_ne_nil p.whole_ne
  rw [hw] at hc
  obtain rfl : d = c := by simpa using hc
  exact p.whole_digits d (hw ▸ List.mem_cons_self)

/-- The parts are read as the numeral that they write. -/
theorem read?_chars : read? (p.chars negative) = some (p.decimal negative) := by
  simp only [read?, p.takeSign_chars negative, takeWhile_run p.whole_digits p.fraction_stops,
    dropWhile_run p.whole_digits p.fraction_stops, p.takeFraction_tail, p.tail_reads]
  simp [p.whole_ne, decimal]

/-- A numeral with a fraction or an exponent is no whole number. -/
theorem readInt?_chars (h : p.fraction ≠ [] ∨ p.tail ≠ []) :
    readInt? (p.chars negative) = none := by
  have hall : (p.whole ++ (fractionChars p.fraction ++ p.tail)).all isDigit = false := by
    rw [List.all_eq_false]
    rcases h with hf | ht
    · exact ⟨'.', by simp [fractionChars, hf], by decide⟩
    · rcases p.tail_cases with hn | ⟨c, r, hr, hc⟩
      · exact absurd hn ht
      · refine ⟨c, by simp [hr], ?_⟩
        rcases hc with rfl | rfl <;> decide
  simp [readInt?, p.takeSign_chars negative, hall]

theorem chars_numeral : ∀ c ∈ p.chars negative, isNumeralChar c = true := by
  have hfraction : ∀ c ∈ fractionChars p.fraction, isNumeralChar c = true := by
    intro c hc
    by_cases hf : p.fraction = []
    · simp [fractionChars, hf] at hc
    · rw [fractionChars, if_neg hf] at hc
      rcases List.mem_cons.mp hc with rfl | hc
      · decide
      · exact p.fraction_digits.numeral c hc
  intro c hc
  simp only [chars, List.mem_append] at hc
  rcases hc with hc | hc | hc | hc
  · exact signChars_numeral negative c hc
  · exact p.whole_digits.numeral c hc
  · exact hfraction c hc
  · exact p.tail_chars c hc

end Parts

/-! ### Layouts -/

theorem readExponent?_exponentChars (l : Layout) (e : Int) :
    readExponent? (exponentChars l e) = some e := by
  have hdigits := digits_toDigits e.natAbs
  have hne : Nat.toDigits 10 e.natAbs ≠ [] := Nat.toDigits_ne_nil
  have hread : ∀ negative, readInt? (signChars negative ++ Nat.toDigits 10 e.natAbs) =
      some (signed negative e.natAbs) := by
    intro negative
    rw [readInt?_signChars negative hne hdigits, digitsValue_toDigits]
  have hplus : readInt? ('+' :: Nat.toDigits 10 e.natAbs) = some (signed false e.natAbs) := by
    simp [readInt?, takeSign, hne, hdigits.all, digitsValue_toDigits]
  have hmark : ∀ s, readExponent? ('e' :: s) = readInt? s := fun s => by simp [readExponent?]
  rw [exponentChars, List.cons_append, hmark]
  by_cases he : e < 0
  · rw [if_pos he]
    refine (hread true).trans (congrArg some ?_)
    simp only [signed, if_true]
    omega
  · have hsigned : signed false e.natAbs = e := by
      simp only [signed, Bool.false_eq_true, if_false]
      omega
    rw [if_neg he]
    split
    · rw [← hsigned]
      exact hplus
    · rw [← hsigned]
      exact hread false

theorem exponentChars_numeral (l : Layout) (e : Int) :
    ∀ c ∈ exponentChars l e, isNumeralChar c = true := by
  intro c hc
  simp only [exponentChars, List.cons_append, List.mem_cons, List.mem_append] at hc
  rcases hc with rfl | hc | hc
  · decide
  · split at hc
    · obtain rfl := List.mem_singleton.mp hc
      decide
    · split at hc
      · obtain rfl := List.mem_singleton.mp hc
        decide
      · cases hc
  · exact (digits_toDigits _).numeral c hc

/-- Parts that write the digits `ds` with the decimal point at `point`. -/
def IsPositional (negative : Bool) (ds : List Char) (point : Int) (p : Parts) : Prop :=
  p.chars negative = signChars negative ++ positional ds point ∧ p.fraction ≠ [] ∧
    ∃ k, p.decimal negative = scaled k ⟨negative, digitsValue ds, point - ds.length⟩

section Positional

variable (negative : Bool) {ds : List Char} (hne : ds ≠ []) (hds : Digits ds) {point : Int}

include hne hds

/-- With the point before the digits, zeros stand between. -/
theorem exists_parts_point_before (h : point ≤ 0) : ∃ p, IsPositional negative ds point p := by
  have hf : List.replicate (-point).toNat '0' ++ ds ≠ [] := by simp [hne]
  have hvalue : digitsValue (['0'] ++ (List.replicate (-point).toNat '0' ++ ds)) =
      digitsValue ds := by
    rw [← List.append_assoc, ← List.replicate_one, List.replicate_append_replicate,
      digitsValue_zeros_append]
  refine ⟨⟨['0'], List.replicate (-point).toNat '0' ++ ds, [], 0, by simp, digits_zeros 1,
    (digits_zeros _).append hds, rfl, fun c hc => nomatch hc⟩, ?_, hf, 0, ?_⟩
  · simp [Parts.chars, fractionChars, positional, h, hne]
  · simp only [Parts.decimal, scaled, hvalue, Decimal.mk.injEq, List.length_append,
      List.length_replicate]
    refine ⟨trivial, by simp, by omega⟩

/-- With the point after the digits, zeros stand between, and one after it. -/
theorem exists_parts_point_after (h : 0 < point) (hle : ds.length ≤ point.toNat) :
    ∃ p, IsPositional negative ds point p := by
  have hvalue : digitsValue (ds ++ List.replicate (point.toNat - ds.length) '0' ++ ['0']) =
      digitsValue ds * 10 ^ (point.toNat - ds.length + 1) := by
    rw [List.append_assoc, ← List.replicate_succ', digitsValue_append_zeros]
  refine ⟨⟨ds ++ List.replicate (point.toNat - ds.length) '0', ['0'], [], 0, by simp [hne],
    hds.append (digits_zeros _), digits_zeros 1, rfl, fun c hc => nomatch hc⟩, ?_,
    List.cons_ne_nil _ _, point.toNat - ds.length + 1, ?_⟩
  · simp [Parts.chars, fractionChars, positional, Int.not_le.mpr h, hle]
  · simp only [Parts.decimal, scaled, hvalue, Decimal.mk.injEq, List.length_singleton]
    refine ⟨trivial, trivial, by omega⟩

/-- With the point among the digits, they are split there. -/
theorem exists_parts_point_among (h : 0 < point) (hlt : point.toNat < ds.length) :
    ∃ p, IsPositional negative ds point p := by
  have htake : ds.take point.toNat ≠ [] :=
    fun h => (List.take_eq_nil_iff.mp h).elim (by omega) hne
  have hdrop : ds.drop point.toNat ≠ [] :=
    fun h => Nat.not_le.mpr hlt (List.drop_eq_nil_iff.mp h)
  refine ⟨⟨ds.take point.toNat, ds.drop point.toNat, [], 0, htake,
    fun c hc => hds c (List.mem_of_mem_take hc), fun c hc => hds c (List.mem_of_mem_drop hc),
    rfl, fun c hc => nomatch hc⟩, ?_, hdrop, 0, ?_⟩
  · simp [Parts.chars, fractionChars, positional, Int.not_le.mpr h, Nat.not_le.mpr hlt, hdrop]
  · simp only [Parts.decimal, scaled, List.take_append_drop, Decimal.mk.injEq, List.length_drop]
    refine ⟨trivial, by simp, by omega⟩

/-- Digits in positional form have a fraction, and are read as a rescaling of them. -/
theorem exists_parts_positional (point : Int) : ∃ p, IsPositional negative ds point p := by
  by_cases h : point ≤ 0
  · exact exists_parts_point_before negative hne hds h
  · by_cases hle : ds.length ≤ point.toNat
    · exact exists_parts_point_after negative hne hds (Int.not_le.mp h) hle
    · exact exists_parts_point_among negative hne hds (Int.not_le.mp h) (Nat.not_le.mp hle)

end Positional

/-- Digits with a power of ten have an exponent, and are read as they are. -/
theorem exists_parts_scientific (l : Layout) (negative : Bool) {ds : List Char} (hne : ds ≠ [])
    (hds : Digits ds) (point : Int) :
    ∃ p : Parts, p.chars negative = signChars negative ++ scientific l ds point ∧
      p.tail ≠ [] ∧
      p.decimal negative = ⟨negative, digitsValue ds, point - ds.length⟩ := by
  have hlen : 0 < ds.length := List.length_pos_iff.mpr hne
  have htake : ds.take 1 ≠ [] := fun h => (List.take_eq_nil_iff.mp h).elim (by decide) hne
  have hfraction : fractionChars (ds.drop 1) =
      if ds.length ≤ 1 then [] else '.' :: ds.drop 1 := by
    unfold fractionChars
    by_cases h : ds.length ≤ 1
    · rw [if_pos (List.drop_eq_nil_iff.mpr h), if_pos h]
    · rw [if_neg (fun hn => h (List.drop_eq_nil_iff.mp hn)), if_neg h]
  refine ⟨⟨ds.take 1, ds.drop 1, exponentChars l (point - 1), point - 1, htake,
    fun c hc => hds c (List.mem_of_mem_take hc), fun c hc => hds c (List.mem_of_mem_drop hc),
    readExponent?_exponentChars l _, exponentChars_numeral l _⟩, ?_, by simp [exponentChars], ?_⟩
  · simp only [Parts.chars, scientific, hfraction, List.append_assoc]
  · simp only [Parts.decimal, List.take_append_drop, Decimal.mk.injEq, List.length_drop]
    refine ⟨trivial, trivial, by omega⟩

/-- The text of a numeral in its parts, which stand for the same double. -/
theorem exists_parts (l : Layout) (d : Decimal) :
    ∃ p : Parts, p.chars d.negative = d.chars l ∧ (p.fraction ≠ [] ∨ p.tail ≠ []) ∧
      (p.decimal d.negative).toDouble? = d.toDouble? := by
  by_cases hz : d.digits = 0
  · refine ⟨⟨['0'], ['0'], [], 0, by simp, digits_zeros 1, digits_zeros 1, rfl,
      fun c hc => nomatch hc⟩, by simp [Parts.chars, fractionChars, chars, hz, signChars],
      .inl (by simp), ?_⟩
    rw [toDouble?_zero hz]
    exact toDouble?_zero rfl
  · -- the digits without the zeros at their end
    obtain ⟨ds, z, ht⟩ : ∃ ds z, trimZeros (Nat.toDigits 10 d.digits) = (ds, z) := ⟨_, _, rfl⟩
    have hsplit := trimZeros_append (Nat.toDigits 10 d.digits)
    rw [ht] at hsplit
    have hvalue : d.digits = digitsValue ds * 10 ^ z := by
      rw [← digitsValue_append_zeros, hsplit, digitsValue_toDigits]
    have hne : ds ≠ [] := by
      rintro rfl
      exact hz (by rw [hvalue]; simp [digitsValue])
    have hds : Digits ds := fun c hc =>
      digits_toDigits d.digits c (hsplit ▸ List.mem_append_left _ hc)
    have hd : d = scaled z ⟨d.negative, digitsValue ds, d.exponent + z⟩ := by
      simp only [scaled, ← hvalue]
      rw [Int.add_sub_cancel]
    have hpoint : (ds.length + (d.exponent + z) : Int) - ds.length = d.exponent + z := by omega
    have hdouble : d.toDouble? =
        (⟨d.negative, digitsValue ds, d.exponent + z⟩ : Decimal).toDouble? := by
      conv_lhs => rw [hd]
      exact toDouble?_scaled z _
    simp only [chars, if_neg hz, ht]
    split
    · obtain ⟨p, hp, hf, k, hk⟩ := exists_parts_positional d.negative hne hds
        (ds.length + (d.exponent + z))
      exact ⟨p, hp, .inl hf, by rw [hk, toDouble?_scaled, hpoint, hdouble]⟩
    · obtain ⟨p, hp, hf, hk⟩ := exists_parts_scientific l d.negative hne hds
        (ds.length + (d.exponent + z))
      exact ⟨p, hp, .inr hf, by rw [hk, hpoint, hdouble]⟩

end Decimal

end PathQuery
