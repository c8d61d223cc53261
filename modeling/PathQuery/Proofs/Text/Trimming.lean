import Mathlib.Data.List.TakeWhile
import PathQuery.Proofs.Text.Characters
import PathQuery.Text.Rest

/-! # Trimmed texts

A text without blanks at its ends is what `trim` leaves alone (`trim_of_solid`).  The rest
are the laws by which a run of characters of one class is split off a text: blanks in
front (`trimStart_append`), and the longest run of a class (`takeWhile_run` and
`dropWhile_run`). -/
namespace PathQuery.Text

/-- A text of white space alone, or no text. -/
def Blanks (s : List Char) : Prop := ∀ c ∈ s, isBlank c = true

theorem blanks_nil : Blanks [] := fun _ h => nomatch h

theorem blanks_space : Blanks [' '] := by simp [Blanks]; decide

theorem blanks_append {s t : List Char} (hs : Blanks s) (ht : Blanks t) : Blanks (s ++ t) :=
  fun c hc => (List.mem_append.mp hc).elim (hs c) (ht c)

/-! ### Blanks in front -/

/-- The blanks that `trimStart` takes off a text. -/
theorem exists_blanks_trimStart (s : List Char) : ∃ b, Blanks b ∧ s = b ++ trimStart s :=
  ⟨s.takeWhile isBlank, fun _ hc => List.mem_takeWhile_imp hc,
    List.takeWhile_append_dropWhile.symm⟩

theorem trimStart_append {b : List Char} (hb : Blanks b) (s : List Char) :
    trimStart (b ++ s) = trimStart s :=
  List.dropWhile_append_of_pos hb

theorem trimStart_cons {c : Char} (hc : isBlank c = false) (s : List Char) :
    trimStart (c :: s) = c :: s := by
  simp [trimStart, hc]

/-- What is left starts with no blank. -/
theorem isBlank_of_trimStart {s r : List Char} {c : Char} (h : trimStart s = c :: r) :
    isBlank c = false := by
  have hd := List.head?_dropWhile_not isBlank s
  rw [show s.dropWhile isBlank = c :: r from h] at hd
  simpa using hd

theorem trimStart_trimStart (s : List Char) : trimStart (trimStart s) = trimStart s := by
  cases h : trimStart s with
  | nil => rfl
  | cons c r => exact trimStart_cons (isBlank_of_trimStart h) r

/-! ### Blanks at either end -/

/-- A text with a character in front that is no blank, and one at the end. -/
structure Solid (s : List Char) : Prop where
  front : ∃ c r, isBlank c = false ∧ s = c :: r
  back : ∃ r c, isBlank c = false ∧ s = r ++ [c]

theorem trim_of_solid {s : List Char} (h : Solid s) : trim s = s := by
  obtain ⟨c, r, hc, hs⟩ := h.front
  obtain ⟨t, d, hd, ht⟩ := h.back
  have hfront : trimStart s = s := by rw [hs, trimStart_cons hc]
  have hback : trimStart s.reverse = s.reverse := by
    rw [ht, List.reverse_append, List.reverse_singleton, List.singleton_append,
      trimStart_cons hd]
  rw [trim, hfront, hback, List.reverse_reverse]

/-- Solid texts joined are solid. -/
theorem solid_append {s t : List Char} (hs : Solid s) (ht : Solid t) : Solid (s ++ t) where
  front := by
    obtain ⟨c, r, hc, rfl⟩ := hs.front
    exact ⟨c, r ++ t, hc, rfl⟩
  back := by
    obtain ⟨r, c, hc, rfl⟩ := ht.back
    exact ⟨s ++ r, c, hc, (List.append_assoc ..).symm⟩

/-! ### The longest run of a class -/

/-- No character of a class stands in front. -/
def Stops (p : Char → Bool) (s : List Char) : Prop := ∀ c ∈ s.head?, p c = false

theorem stops_nil (p : Char → Bool) : Stops p [] := fun _ h => nomatch h

theorem stops_cons {p : Char → Bool} {c : Char} (hc : p c = false) (s : List Char) :
    Stops p (c :: s) := by
  rintro d hd
  obtain rfl : c = d := by simpa using hd
  exact hc

theorem stops_append {p : Char → Bool} {s r : List Char} (hs : Stops p s) (hr : Stops p r) :
    Stops p (s ++ r) := by
  cases s with
  | nil => exact hr
  | cons c s => exact hs

theorem takeWhile_run {p : Char → Bool} {w r : List Char} (hw : ∀ c ∈ w, p c = true)
    (hr : Stops p r) : (w ++ r).takeWhile p = w := by
  rw [List.takeWhile_append_of_pos hw]
  cases r with
  | nil => simp
  | cons c r => simp [hr c rfl]

theorem dropWhile_run {p : Char → Bool} {w r : List Char} (hw : ∀ c ∈ w, p c = true)
    (hr : Stops p r) : (w ++ r).dropWhile p = r := by
  rw [List.dropWhile_append_of_pos hw]
  cases r with
  | nil => rfl
  | cons c r => simp [hr c rfl]

/-- Two runs of a class that are followed by something else are one and the same. -/
theorem run_unique {p : Char → Bool} {v w r t : List Char} (hv : ∀ c ∈ v, p c = true)
    (hw : ∀ c ∈ w, p c = true) (hr : Stops p r) (ht : Stops p t) (h : v ++ r = w ++ t) :
    v = w ∧ r = t := by
  refine ⟨?_, ?_⟩
  · rw [← takeWhile_run hv hr, h, takeWhile_run hw ht]
  · rw [← dropWhile_run hv hr, h, dropWhile_run hw ht]

end PathQuery.Text
