import PathQuery.Proofs.Query.CanonicalText

/-! # Texts of queries joined

Two texts of queries put one after the other, with a point between them if the second starts
with a name, are the text of a query that does what the first does and then what the second
does (`read_joined`).

What the text after an item may look like is a matter of the grammar alone: further items
derive it whatever stands before them (`further_append`), and an item that was the first of a
query becomes a further one by the point in front of a name (`item_link`). -/
namespace PathQuery.Query

open Text Grammar

/-- What stands between two texts that are joined, of which `t` is the second. -/
def link : (t : List Char) → List Char
  | '[' :: _ => []
  | '.' :: '.' :: _ => []
  | _ => ['.']

/-- Two texts of queries joined to one, without the blanks around them. -/
def joined (a b : String) : String :=
  String.ofList (trim a.toList ++ (link (trim b.toList) ++ trim b.toList))

example : joined ".a " " b" = ".a.b" := by decide

/-! ### Items in a row -/

theorem further_append {v w : List Char} {ss ts : List Step} (hv : Further v ss)
    (hw : Further w ts) : Further (v ++ w) (ss ++ ts) := by
  induction hv with
  | nil => exact hw
  | cons h _ ih =>
    rw [List.append_assoc]
    exact .cons h ih

theorem items_append {t v : List Char} {ss ts : List Step} (ht : Items t ss)
    (hv : Further v ts) : Items (t ++ v) (ss ++ ts) := by
  obtain ⟨h, hs⟩ := ht
  rw [List.append_assoc]
  exact .mk h (further_append hs hv)

/-- A first item becomes a further one by what links it to the text before. -/
theorem item_link {w : List Char} {s : Step} (h : Item true w s) (v : List Char) :
    Item false (link (w ++ v) ++ w) s := by
  cases h with
  | @descend w k hk =>
    obtain ⟨c, u, rfl, hc⟩ := key_front hk
    have hb : c ≠ '[' := by
      rintro rfl
      exact absurd hc (by decide)
    have hp : c ≠ '.' := by
      rintro rfl
      exact absurd hc (by decide)
    have hitem : Item false (lead false ++ c :: u) (.descend k) := .descend hk
    simpa [lead, link, hb, hp] using hitem
  | spread => exact .spread
  | search hk => exact .search hk
  | bracket hs => exact .bracket hs

theorem further_link {t : List Char} {ss : List Step} (h : Items t ss) :
    Further (link t ++ t) ss := by
  obtain @⟨w, v, s, ss, hw, hv⟩ := h
  rw [← List.append_assoc]
  exact .cons (item_link hw v) hv

/-! ### Texts with steps -/

theorem items_ne_nil {t : List Char} {ss : List Step} (h : Items t ss) : t ≠ [] :=
  (dropPoint_of_items h).2

theorem derives_append {s v : List Char} {q : Query} {ts : List Step} (hs : Derives s q)
    (hv : Further v ts) : Derives (s ++ v) ⟨q.steps ++ ts⟩ := by
  cases hs with
  | plain h => exact .plain (items_append h hv)
  | @pointed t ss hdots h =>
    refine .pointed ?_ (items_append h hv)
    -- the second character is one of the first item still
    obtain ⟨c, u, rfl⟩ := List.exists_cons_of_ne_nil (items_ne_nil h)
    simpa [List.cons_prefix_cons] using hdots

/-- A text that is read as a query with steps is derived. -/
theorem derives_of_read {a : String} {q : Query} (h : read a = .ok q) (hq : q.steps ≠ []) :
    Derives (trim a.toList) q :=
  (readTrimmed_eq_ok_iff.mp h).resolve_left fun hempty => hq hempty.2

/-- Texts joined are read as the steps of the one and then those of the other, which lead
where the second query leads from what the first has led to. -/
theorem read_joined {a b : String} {q r : Query} (ha : read a = .ok q) (hb : read b = .ok r)
    (hq : q.steps ≠ []) (hr : r.steps ≠ [])
    (hpoint : ∀ t, trim b.toList = '.' :: t → ∃ u, t = '.' :: u) :
    read (joined a b) = .ok ⟨q.steps ++ r.steps⟩ ∧
      ∀ c, eval ⟨q.steps ++ r.steps⟩ c = (q.eval c).bind r.eval := by
  refine ⟨?_, fun c => run_append c q.steps r.steps⟩
  have hfurther : Further (link (trim b.toList) ++ trim b.toList) r.steps := by
    generalize htext : trim b.toList = t at hpoint ⊢
    cases htext ▸ derives_of_read hb hr with
    | plain h => exact further_link h
    | @pointed t ss hdots h =>
      obtain ⟨u, rfl⟩ := hpoint t rfl
      exact absurd ⟨u, rfl⟩ hdots
  have hderives := derives_append (derives_of_read ha hq) hfurther
  rw [read, joined, String.toList_ofList, trim_of_accepts (.inr hderives)]
  exact readTrimmed_eq_ok_iff.mpr (.inr hderives)

/-- Blanks fall away, the point in front stays, and one comes between the names. -/
theorem read_joined_names :
    (read ".a " = .ok ⟨[.descend "a"]⟩ ∧ read " b" = .ok ⟨[.descend "b"]⟩) ∧
      read (joined ".a " " b") = .ok ⟨[.descend "a", .descend "b"]⟩ ∧
      ∀ c, eval ⟨[.descend "a", .descend "b"]⟩ c =
        (eval ⟨[.descend "a"]⟩ c).bind (eval ⟨[.descend "b"]⟩) := by
  have ha : Items ['a'] [.descend "a"] :=
    .mk (.descend (.bare (by decide) (by simp; decide) : Key ['a'] "a")) .nil
  have hb : Items ['b'] [.descend "b"] :=
    .mk (.descend (.bare (by decide) (by simp; decide) : Key ['b'] "b")) .nil
  have htrima : trim ".a ".toList = ['.', 'a'] := by decide
  have htrimb : trim " b".toList = ['b'] := by decide
  have hreada : read ".a " = .ok ⟨[.descend "a"]⟩ := by
    rw [read, htrima]
    exact readTrimmed_eq_ok_iff.mpr (.inr (.pointed (by decide) ha))
  have hreadb : read " b" = .ok ⟨[.descend "b"]⟩ := by
    rw [read, htrimb]
    exact readTrimmed_eq_ok_iff.mpr (.inr (.plain hb))
  refine ⟨⟨hreada, hreadb⟩, read_joined hreada hreadb (by simp) (by simp) ?_⟩
  intro t ht
  rw [htrimb] at ht
  cases ht

end PathQuery.Query
