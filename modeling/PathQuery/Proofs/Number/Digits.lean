import Mathlib.Algebra.Group.Nat.Defs
import Mathlib.Data.List.TakeWhile
import PathQuery.Number.Basic

/-! # Rows of digits

Natural numbers as rows of decimal digits.  Zeros before a row do not count and zeros after
it multiply (`digitsValue_zeros_append`, `digitsValue_append_zeros`); the digits of a number
are those of its positive part and its zeros (`toDigits_mul_pow`).  So whole numbers are
read back from their text (`readInt?_intChars`). -/
namespace PathQuery
namespace Decimal

open Text

/-- Digits alone. -/
def Digits (s : List Char) : Prop := ∀ c ∈ s, isDigit c = true

theorem Digits.append {s t : List Char} (hs : Digits s) (ht : Digits t) : Digits (s ++ t) :=
  fun c hc => (List.mem_append.mp hc).elim (hs c) (ht c)

theorem Digits.all {s : List Char} (h : Digits s) : s.all isDigit = true :=
  List.all_eq_true.mpr h

theorem digits_zeros (k : Nat) : Digits (List.replicate k '0') := by
  intro c hc
  rw [List.eq_of_mem_replicate hc]
  decide

theorem digits_toDigits (n : Nat) : Digits (Nat.toDigits 10 n) := by
  intro c hc
  have h : c.isDigit = true := Nat.isDigit_of_mem_toDigits (by decide) (by decide) hc
  simpa [isDigit, Char.isDigit, Char.le_def] using h

/-- A digit is no sign, no point and no exponent's mark. -/
theorem ne_of_isDigit {c : Char} (h : isDigit c = true) :
    c ≠ '-' ∧ c ≠ '+' ∧ c ≠ '.' ∧ c ≠ 'e' := by
  refine ⟨?_, ?_, ?_, ?_⟩ <;> rintro rfl <;> exact absurd h (by decide)

/-! ### The value of a row -/

theorem digitsValue_eq (s : List Char) : digitsValue s = Nat.ofDigitChars 10 s 0 := rfl

theorem digitsValue_toDigits (n : Nat) : digitsValue (Nat.toDigits 10 n) = n :=
  Nat.ofDigitChars_ten_toDigits

theorem digitsValue_zeros_append (k : Nat) (s : List Char) :
    digitsValue (List.replicate k '0' ++ s) = digitsValue s := by
  rw [digitsValue_eq, digitsValue_eq, Nat.ofDigitChars_append, Nat.ofDigitChars_replicate_zero,
    Nat.mul_zero]

theorem digitsValue_append_zeros (s : List Char) (k : Nat) :
    digitsValue (s ++ List.replicate k '0') = digitsValue s * 10 ^ k := by
  rw [digitsValue_eq, digitsValue_eq, Nat.ofDigitChars_append, Nat.ofDigitChars_replicate_zero,
    Nat.mul_comm]

/-- Multiplying by a power of ten appends zeros. -/
theorem toDigits_mul_pow {n : Nat} (hn : 0 < n) (k : Nat) :
    Nat.toDigits 10 (n * 10 ^ k) = Nat.toDigits 10 n ++ List.replicate k '0' := by
  induction k with
  | zero => simp
  | succ k ih =>
    have hstep := Nat.toDigits_append_toDigits (b := 10) (n := n * 10 ^ k) (d := 0) (by decide)
      (Nat.mul_pos hn (Nat.pow_pos (by decide))) (by decide)
    rw [ih, Nat.toDigits_zero, List.append_assoc] at hstep
    have hmul : n * 10 ^ (k + 1) = 10 * (n * 10 ^ k) + 0 := by
      rw [Nat.pow_succ, ← Nat.mul_assoc, Nat.mul_comm, Nat.add_zero]
    rw [List.replicate_succ', hmul, ← hstep]

theorem digitCount_mul_pow {n : Nat} (hn : 0 < n) (k : Nat) :
    digitCount (n * 10 ^ k) = digitCount n + k := by
  rw [digitCount, toDigits_mul_pow hn, List.length_append, List.length_replicate, digitCount]

theorem digitCount_le_iff {n k : Nat} (hk : 0 < k) : digitCount n ≤ k ↔ n < 10 ^ k :=
  Nat.length_toDigits_le_iff (by decide) hk

/-- `trimZeros` splits a row into what it keeps and zeros. -/
theorem trimZeros_append (ds : List Char) :
    (trimZeros ds).1 ++ List.replicate (trimZeros ds).2 '0' = ds := by
  have hsplit : (ds.reverse.dropWhile (· == '0')).reverse ++
      (ds.reverse.takeWhile (· == '0')).reverse = ds := by
    rw [← List.reverse_append, List.takeWhile_append_dropWhile, List.reverse_reverse]
  have hlen := congrArg List.length hsplit
  have hzeros : (ds.reverse.takeWhile (· == '0')).reverse =
      List.replicate (ds.length - (ds.reverse.dropWhile (· == '0')).reverse.length) '0' := by
    refine List.eq_replicate_iff.mpr ⟨?_, ?_⟩
    · rw [List.length_append] at hlen
      omega
    · intro c hc
      have hc' := List.mem_takeWhile_imp (List.mem_reverse.mp hc)
      simpa using hc'
  simp only [trimZeros]
  rw [← hzeros]
  exact hsplit

/-! ### Whole numbers -/

/-- The minus sign of a negative number. -/
def signChars (negative : Bool) : List Char := if negative then ['-'] else []

/-- A sign is taken off in front of a digit. -/
theorem takeSign_signChars (negative : Bool) {s : List Char}
    (hs : ∀ c ∈ s.head?, isDigit c = true) :
    takeSign (signChars negative ++ s) = (negative, s) := by
  cases negative with
  | true => rfl
  | false =>
    rcases s with _ | ⟨c, r⟩
    · rfl
    · have hc := ne_of_isDigit (hs c rfl)
      simp [signChars, takeSign, hc]

theorem readInt?_signChars (negative : Bool) {s : List Char} (hne : s ≠ []) (hs : Digits s) :
    readInt? (signChars negative ++ s) = some (signed negative (digitsValue s)) := by
  have hsign := takeSign_signChars negative (fun c hc => hs c (List.mem_of_mem_head? hc))
  simp [readInt?, hsign, hne, hs.all]

end Decimal

namespace Number

open Decimal

theorem intChars_eq (n : Int) :
    intChars n = signChars (n < 0) ++ Nat.toDigits 10 n.natAbs := by
  by_cases h : n < 0 <;> simp [intChars, signChars, h]

theorem signed_natAbs (n : Int) : signed (n < 0) n.natAbs = n := by
  unfold signed
  split <;> rename_i h <;> simp only [decide_eq_true_eq] at h <;> omega

/-- A whole number is read back. -/
theorem readInt?_intChars (n : Int) : readInt? (intChars n) = some n := by
  rw [intChars_eq, readInt?_signChars _ Nat.toDigits_ne_nil (digits_toDigits _),
    digitsValue_toDigits, signed_natAbs]

end Number

end PathQuery
