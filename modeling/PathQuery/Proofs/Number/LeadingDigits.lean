import PathQuery.Proofs.Number.NumeralText

/-! # The first digit of a number

Some readers refuse a whole number that starts with a zero.  What is written never does, unless
the zero stands alone before the point (`Decimal.exists_plain_parts`): the digits of a positive
number start with no zero, and a layout that puts one in front puts the point after it. -/
namespace PathQuery
namespace Decimal

open Text

/-- No zero stands in front of a positive whole number. -/
theorem head?_toDigits_ne {n : Nat} (hn : 0 < n) : (Nat.toDigits 10 n).head? ≠ some '0' := by
  induction n using Nat.strongRecOn with
  | ind n ih =>
    by_cases h : n < 10
    · have hdigit : ∀ n < 10, 0 < n → Nat.digitChar n ≠ '0' := by decide
      rw [Nat.toDigits_of_lt_base h]
      simpa using hdigit n h hn
    · rw [Nat.toDigits_of_base_le (by decide) (Nat.not_lt.mp h),
        List.head?_append_of_ne_nil _ Nat.toDigits_ne_nil]
      exact ih (n / 10) (by omega) (by omega)

/-! ### Layouts -/

/-- The text starts with a digit, and if this is a zero no other digit comes next. -/
def Leads (s : List Char) : Prop :=
  ∃ c r, s = c :: r ∧ isDigit c = true ∧ (c = '0' → Stops isDigit r)

theorem leads_cons {c : Char} (hc : isDigit c = true) (hne : c ≠ '0') (r : List Char) :
    Leads (c :: r) :=
  ⟨c, r, rfl, hc, fun h => absurd h hne⟩

theorem leads_zero {c : Char} (hc : isDigit c = false) (r : List Char) : Leads ('0' :: c :: r) :=
  ⟨'0', c :: r, rfl, by decide, fun _ => stops_cons hc r⟩

theorem leads_positional {d : Char} (hd : isDigit d = true) (hne : d ≠ '0') (ds : List Char)
    (point : Int) : Leads (positional (d :: ds) point) := by
  unfold positional
  split
  · exact leads_zero (by decide) _
  · rename_i hpoint
    split
    · exact leads_cons hd hne _
    · obtain ⟨k, hk⟩ : ∃ k, point.toNat = k + 1 := ⟨point.toNat - 1, by omega⟩
      rw [hk]
      exact leads_cons hd hne _

theorem leads_scientific (l : Layout) {d : Char} (hd : isDigit d = true) (hne : d ≠ '0')
    (ds : List Char) (point : Int) : Leads (scientific l (d :: ds) point) := by
  simp only [scientific, List.take_succ_cons, List.take_zero, List.cons_append,
    List.append_assoc]
  exact leads_cons hd hne _

theorem exists_leads_chars (l : Layout) (d : Decimal) :
    ∃ s, d.chars l = signChars d.negative ++ s ∧ Leads s := by
  by_cases hz : d.digits = 0
  · exact ⟨['0', '.', '0'], by simp [chars, hz, signChars], leads_zero (by decide) _⟩
  · obtain ⟨ds, z, ht⟩ : ∃ ds z, trimZeros (Nat.toDigits 10 d.digits) = (ds, z) := ⟨_, _, rfl⟩
    have hsplit := trimZeros_append (Nat.toDigits 10 d.digits)
    rw [ht] at hsplit
    have hhead := head?_toDigits_ne (Nat.pos_of_ne_zero hz)
    have hdigits := digits_toDigits d.digits
    rw [← hsplit] at hhead hdigits
    cases ds with
    | nil =>
      -- not all digits are zeros
      have hne : Nat.toDigits 10 d.digits ≠ [] := Nat.toDigits_ne_nil
      rw [← hsplit] at hne
      cases z with
      | zero => exact absurd rfl hne
      | succ z => exact absurd rfl hhead
    | cons c ds =>
      have hc : isDigit c = true := hdigits c (by simp)
      have hne : c ≠ '0' := fun h => hhead (by simp [h])
      simp only [chars, if_neg hz, ht]
      split
      · exact ⟨_, rfl, leads_positional hc hne ds _⟩
      · exact ⟨_, rfl, leads_scientific l hc hne ds _⟩

/-! ### Parts -/

/-- The digits before the point start with no zero, or are just one. -/
def Parts.Plain (p : Parts) : Prop := p.whole.head? = some '0' → p.whole = ['0']

theorem Parts.plain_of_leads {p : Parts} {negative : Bool} {s : List Char}
    (hp : p.chars negative = signChars negative ++ s) (hs : Leads s) : p.Plain := by
  intro hzero
  obtain ⟨c, r, rfl, -, hstops⟩ := hs
  obtain ⟨d, ds, hw⟩ := List.exists_cons_of_ne_nil p.whole_ne
  have hdigits := p.whole_digits
  rw [chars, hw] at hp
  rw [hw] at hzero hdigits ⊢
  obtain ⟨rfl, rfl⟩ := List.cons.inj (List.append_cancel_left hp)
  obtain rfl : d = '0' := by simpa using hzero
  cases ds with
  | nil => rfl
  | cons x ds =>
    have hx := hstops rfl x rfl
    rw [hdigits x (by simp)] at hx
    cases hx

/-- The text of a numeral in plain parts, which stand for the same double. -/
theorem exists_plain_parts (l : Layout) (d : Decimal) :
    ∃ p : Parts, p.chars d.negative = d.chars l ∧ (p.fraction ≠ [] ∨ p.tail ≠ []) ∧
      (p.decimal d.negative).toDouble? = d.toDouble? ∧ p.Plain := by
  obtain ⟨p, hp, hpart, hdouble⟩ := exists_parts l d
  obtain ⟨s, hs, hleads⟩ := exists_leads_chars l d
  exact ⟨p, hp, hpart, hdouble, p.plain_of_leads (hp.trans hs) hleads⟩

end Decimal

end PathQuery
