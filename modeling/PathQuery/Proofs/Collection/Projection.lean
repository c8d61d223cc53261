import Mathlib.Data.List.TakeWhile
import PathQuery.Proofs.Collection.Selection
import PathQuery.Proofs.Json.ScalarText

/-! # Projecting to scalars

A projection gives the scalars among the entries of a collection, or fails at the first entry
that is none (`Collection.scalars_or_exists_first`).

Repeats are found by their texts: a value goes if its text has been seen before.  Scalars of one
text are one and the same, so what stays of a list of scalars are the values at the places where
they occur first, and no value goes because another one is written like it
(`Collection.uniqueScalars_eq_first_places`). -/
namespace PathQuery

/-! ### Values whose text is new -/

theorem itemsAt_cons {α : Type} (x : α) (xs : List α) (s : Finset (Fin (x :: xs).length)) :
    itemsAt (x :: xs) s =
      (if 0 ∈ s then [x] else []) ++ itemsAt xs (Finset.univ.filter fun i => i.succ ∈ s) := by
  have hrange : List.finRange (x :: xs).length =
      0 :: (List.finRange xs.length).map Fin.succ := List.finRange_succ
  have htail : ((List.finRange xs.length).map Fin.succ).filter (· ∈ s) =
      ((List.finRange xs.length).filter fun i => i.succ ∈ s).map Fin.succ := by
    rw [List.filter_map]
    rfl
  simp only [itemsAt, hrange, Finset.mem_filter_univ]
  by_cases h : 0 ∈ s
  · rw [List.filter_cons_of_pos (by simpa using h), if_pos h, htail, List.map_cons, List.map_map]
    rfl
  · rw [List.filter_cons_of_neg (by simpa using h), if_neg h, htail, List.map_map]
    rfl

namespace Collection

/-- The places of the values whose text is not among those seen and not that of a value
before. -/
def newPlaces (seen : List (List Char)) (vs : List Json) : Finset (Fin vs.length) :=
  Finset.univ.filter fun i =>
    (∀ t ∈ seen, t ≠ vs[i].chars) ∧ ∀ j < i, vs[j].chars ≠ vs[i].chars

theorem mem_newPlaces {seen : List (List Char)} {vs : List Json} {i : Fin vs.length} :
    i ∈ newPlaces seen vs ↔ vs[i].chars ∉ seen ∧ ∀ j < i, vs[j].chars ≠ vs[i].chars := by
  rw [newPlaces, Finset.mem_filter_univ, List.forall_mem_ne']

/-- The text of the first value is seen by all that come after it. -/
theorem succ_mem_newPlaces {seen : List (List Char)} {v : Json} {vs : List Json}
    {i : Fin vs.length} :
    i.succ ∈ newPlaces seen (v :: vs) ↔ i ∈ newPlaces (v.chars :: seen) vs := by
  rw [mem_newPlaces, mem_newPlaces, List.mem_cons, not_or]
  constructor
  · rintro ⟨hseen, hbefore⟩
    refine ⟨⟨?_, hseen⟩, ?_⟩
    · exact (hbefore 0 (Fin.succ_pos i)).symm
    · intro j hj
      exact hbefore j.succ (Fin.succ_lt_succ_iff.mpr hj)
  · rintro ⟨⟨hfirst, hseen⟩, hbefore⟩
    refine ⟨hseen, ?_⟩
    intro j hj
    cases j using Fin.cases with
    | zero => exact fun h => hfirst h.symm
    | succ j => exact hbefore j (Fin.succ_lt_succ_iff.mp hj)

theorem newPlaces_cons_of_mem {seen : List (List Char)} {s : List Char} (h : s ∈ seen)
    (vs : List Json) : newPlaces (s :: seen) vs = newPlaces seen vs := by
  ext i
  have hmem : vs[i].chars ∈ s :: seen ↔ vs[i].chars ∈ seen := by
    rw [List.mem_cons, or_iff_right_iff_imp]
    intro heq
    exact heq ▸ h
  rw [mem_newPlaces, mem_newPlaces, hmem]

/-- What is left without repeats are the values at the places where a text is new. -/
theorem uniqueFrom_eq_itemsAt (seen : List (List Char)) (vs : List Json) :
    uniqueFrom seen vs = itemsAt vs (newPlaces seen vs) := by
  induction vs generalizing seen with
  | nil => rfl
  | cons v vs ih =>
    have htail : (Finset.univ.filter fun i : Fin vs.length =>
        i.succ ∈ newPlaces seen (v :: vs)) = newPlaces (v.chars :: seen) vs := by
      ext i
      rw [Finset.mem_filter_univ, succ_mem_newPlaces]
    have hhead : (0 : Fin (v :: vs).length) ∈ newPlaces seen (v :: vs) ↔ v.chars ∉ seen := by
      rw [mem_newPlaces]
      exact and_iff_left fun j hj => absurd hj (Fin.not_lt_zero j)
    rw [itemsAt_cons, htail, uniqueFrom]
    by_cases h : v.chars ∈ seen
    · rw [if_pos h, if_neg (by rw [hhead]; exact not_not_intro h), List.nil_append, ih,
        newPlaces_cons_of_mem h]
    · rw [if_neg h, if_pos (hhead.mpr h), List.singleton_append, ih]

/-! ### Projections -/

theorem scalarsOf_cons_of_scalar {e : Entry} (h : e.isScalar = true) (es : List Entry)
    (policy : Composites) :
    scalarsOf policy (e :: es) = (scalarsOf policy es).map (e.value :: ·) := by
  cases policy <;> rw [scalarsOf, if_pos h]

theorem scalarsOf_of_scalars {es : List Entry} (h : ∀ e ∈ es, e.isScalar = true)
    (policy : Composites) : scalarsOf policy es = .ok (es.map Entry.value) := by
  induction es with
  | nil => rfl
  | cons e es ih =>
    rw [scalarsOf_cons_of_scalar (h e List.mem_cons_self),
      ih fun f hf => h f (List.mem_cons_of_mem e hf)]
    rfl

theorem scalarsOf_skip (es : List Entry) :
    scalarsOf .skip es = .ok ((es.map Entry.value).filter Json.isScalar) := by
  induction es with
  | nil => rfl
  | cons e es ih =>
    rw [List.map_cons]
    by_cases h : e.isScalar = true
    · have hv : e.value.isScalar = true := h
      rw [scalarsOf_cons_of_scalar h, ih, List.filter_cons_of_pos hv]
      rfl
    · have hv : ¬e.value.isScalar = true := h
      rw [scalarsOf, if_neg h, ih, List.filter_cons_of_neg hv]

/-- The first entry that is no scalar is the one that is refused. -/
theorem scalarsOf_refuse_append {before : List Entry} (hbefore : ∀ f ∈ before, f.isScalar = true)
    {e : Entry} (he : e.isScalar = false) (after : List Entry) :
    scalarsOf .refuse (before ++ e :: after) = .error (.notScalar e.text e.kind) := by
  induction before with
  | nil => rw [List.nil_append, scalarsOf, if_neg (by rw [he]; decide)]
  | cons f fs ih =>
    rw [List.cons_append, scalarsOf_cons_of_scalar (hbefore f List.mem_cons_self),
      ih fun g hg => hbefore g (List.mem_cons_of_mem f hg)]
    rfl

/-- Either all entries are scalars, or there is a first that is none. -/
theorem scalars_or_exists_first (es : List Entry) :
    (∀ e ∈ es, e.isScalar = true) ∨
      ∃ before e after, es = before ++ e :: after ∧ (∀ f ∈ before, f.isScalar = true) ∧
        e.isScalar = false := by
  have hsplit : es.takeWhile Entry.isScalar ++ es.dropWhile Entry.isScalar = es :=
    List.takeWhile_append_dropWhile
  have hbefore : ∀ f ∈ es.takeWhile Entry.isScalar, f.isScalar = true :=
    fun f hf => List.mem_takeWhile_imp hf
  cases hrest : es.dropWhile Entry.isScalar with
  | nil =>
    left
    rw [hrest, List.append_nil] at hsplit
    rwa [hsplit] at hbefore
  | cons e after =>
    right
    have hhead := List.head?_dropWhile_not Entry.isScalar es
    rw [hrest] at hhead hsplit
    exact ⟨_, e, after, hsplit.symm, hbefore, by simpa using hhead⟩

/-! ### Repeats -/

/-- The places of the values of which none before is the same. -/
theorem mem_newPlaces_iff {vs : List Json} (h : ∀ v ∈ vs, v.isScalar = true)
    {i : Fin vs.length} : i ∈ newPlaces [] vs ↔ ∀ j < i, vs[j] ≠ vs[i] := by
  have hscalar : ∀ j : Fin vs.length, vs[j].isScalar = true := fun j => h _ (List.getElem_mem _)
  rw [mem_newPlaces, and_iff_right List.not_mem_nil]
  refine forall₂_congr ?_
  intro j _
  exact not_congr (Json.chars_inj_of_scalar (hscalar j) (hscalar i))

/-- Of scalars the unique ones are those at the places of which no earlier place holds the same,
in order, and they are the same only if they are identical.  Where a collection holds something
else, the projection to unique scalars fails as the one to all scalars does, at the first entry
that is no scalar, and a projection that skips such entries gives the scalars in order. -/
theorem uniqueScalars_eq_first_places (c : Collection) :
    (∀ v w : Json, v.isScalar = true → w.isScalar = true → (v.chars = w.chars ↔ v = w)) ∧
    ((∀ e ∈ c.entries, e.isScalar = true) →
      ∃ vs, c.scalars .refuse = .ok vs ∧ vs = c.entries.map Entry.value ∧
        ∃ s : Finset (Fin vs.length), (∀ i, i ∈ s ↔ ∀ j < i, vs[j] ≠ vs[i]) ∧
          c.uniqueScalars = .ok (itemsAt vs s)) ∧
    (¬(∀ e ∈ c.entries, e.isScalar = true) →
      ∃ before e after, c.entries = before ++ e :: after ∧
        (∀ f ∈ before, f.isScalar = true) ∧ e.isScalar = false ∧
        c.scalars .refuse = .error (.notScalar e.text e.kind) ∧
        c.uniqueScalars = .error (.notScalar e.text e.kind) ∧
        c.scalars .skip = .ok ((c.entries.map Entry.value).filter Json.isScalar)) := by
  refine ⟨fun v w => Json.chars_inj_of_scalar, ?_, ?_⟩
  · intro h
    have hscalars : c.scalars .refuse = .ok (c.entries.map Entry.value) :=
      scalarsOf_of_scalars h .refuse
    have hvalues : ∀ v ∈ c.entries.map Entry.value, v.isScalar = true := by
      intro v hv
      obtain ⟨e, he, rfl⟩ := List.mem_map.mp hv
      exact h e he
    refine ⟨_, hscalars, rfl, newPlaces [] _, fun i => mem_newPlaces_iff hvalues, ?_⟩
    rw [uniqueScalars, hscalars, ← uniqueFrom_eq_itemsAt]
    rfl
  · intro h
    obtain ⟨before, e, after, hentries, hbefore, he⟩ :=
      (scalars_or_exists_first c.entries).resolve_left h
    have hrefused : c.scalars .refuse = .error (.notScalar e.text e.kind) := by
      rw [scalars, hentries]
      exact scalarsOf_refuse_append hbefore he after
    refine ⟨before, e, after, hentries, hbefore, he, hrefused, ?_, scalarsOf_skip c.entries⟩
    rw [uniqueScalars, hrefused]
    rfl

/-- Zeros of every kind, of which only the last two repeat another, and a collection with an
array and an object. -/
theorem uniqueScalars_eq_first_places_zeros :
    let named : Json → Entry := fun v => ⟨.key "k", none, v⟩
    let plus : Json := .number (.double (.zero false))
    let minus : Json := .number (.double (.zero true))
    let c : Collection := ⟨"zeros",
      [.ofInt 0, .string "0", plus, minus, .string "0.0", .bool false, .null, minus, .ofInt 0].map
        named⟩
    let d : Collection := ⟨"mixed", [named .null, named (.array []), named (.object [])]⟩
    (plus.isScalar = true ∧ minus.isScalar = true ∧ (plus.chars = minus.chars ↔ plus = minus)) ∧
    ((∀ e ∈ c.entries, e.isScalar = true) ∧
      (∃ vs, c.scalars .refuse = .ok vs ∧ vs = c.entries.map Entry.value ∧
        ∃ s : Finset (Fin vs.length), (∀ i, i ∈ s ↔ ∀ j < i, vs[j] ≠ vs[i]) ∧
          c.uniqueScalars = .ok (itemsAt vs s)) ∧
      c.uniqueScalars = .ok
        [.ofInt 0, .string "0", plus, minus, .string "0.0", .bool false, .null]) ∧
    ¬(∀ e ∈ d.entries, e.isScalar = true) ∧
      ∃ before e after, d.entries = before ++ e :: after ∧
        (∀ f ∈ before, f.isScalar = true) ∧ e.isScalar = false ∧
        d.scalars .refuse = .error (.notScalar e.text e.kind) ∧
        d.uniqueScalars = .error (.notScalar e.text e.kind) ∧
        d.scalars .skip = .ok ((d.entries.map Entry.value).filter Json.isScalar) := by
  intro named plus minus c d
  have hc : ∀ e ∈ c.entries, e.isScalar = true := by decide
  have hd : ¬(∀ e ∈ d.entries, e.isScalar = true) := by decide
  refine ⟨⟨rfl, rfl, (c.uniqueScalars_eq_first_places).1 plus minus rfl rfl⟩,
    ⟨hc, (c.uniqueScalars_eq_first_places).2.1 hc, by rfl⟩, hd,
    (d.uniqueScalars_eq_first_places).2.2 hd⟩

end Collection

end PathQuery
