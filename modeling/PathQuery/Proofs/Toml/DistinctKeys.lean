import PathQuery.Document.Decode
import PathQuery.Proofs.Toml.Conversion

/-! # Every key once

No table in a TOML text has a key twice: tables grow only by keys that they do not have
(`Toml.Growing.Distinct`), and the reader builds every table so (`Toml.distinct_read?`).  Hence
nothing is merged when a TOML value becomes a document (`Document.ofTomlText_eq_ok`), and the
document holds the tree of this value (`Toml.json_keeps_tree`). -/
namespace PathQuery

namespace Toml

mutual

/-- No table in the value has a key twice. -/
def Distinct : Toml → Prop
  | array items => DistinctItems items
  | table members => (members.map Prod.fst).Nodup ∧ DistinctMembers members
  | _ => True

/-- No table in any of the items has a key twice. -/
def DistinctItems : List Toml → Prop
  | [] => True
  | t :: ts => Distinct t ∧ DistinctItems ts

/-- No table in any of the members' values has a key twice. -/
def DistinctMembers : List (String × Toml) → Prop
  | [] => True
  | (_, t) :: ms => Distinct t ∧ DistinctMembers ms

end

theorem distinctItems_iff {ts : List Toml} : DistinctItems ts ↔ ∀ t ∈ ts, t.Distinct := by
  induction ts with
  | nil => simp [DistinctItems]
  | cons t ts ih => rw [DistinctItems, ih, List.forall_mem_cons]

theorem distinctMembers_iff {ms : List (String × Toml)} :
    DistinctMembers ms ↔ ∀ m ∈ ms, m.2.Distinct := by
  induction ms with
  | nil => simp [DistinctMembers]
  | cons m ms ih => rw [DistinctMembers, ih, List.forall_mem_cons]

mutual

theorem distinct_json : ∀ {t : Toml}, t.Distinct → t.json.Distinct
  | string _, _ | integer _ _, _ | boolean _, _ | datetime _, _ => trivial
  | float (.finite _), _ | float (.infinite _), _ | float (.notANumber _), _ => trivial
  | array _, h => distinctItems_jsonItems h
  | table ms, h => by
    refine ⟨?_, distinctMembers_jsonMembers h.2⟩
    rw [keys_jsonMembers]
    exact h.1

theorem distinctItems_jsonItems :
    ∀ {ts : List Toml}, DistinctItems ts → Json.DistinctItems (jsonItems ts)
  | [], _ => trivial
  | _ :: _, h => ⟨distinct_json h.1, distinctItems_jsonItems h.2⟩

theorem distinctMembers_jsonMembers :
    ∀ {ms : List (String × Toml)}, DistinctMembers ms → Json.DistinctMembers (jsonMembers ms)
  | [], _ => trivial
  | _ :: _, h => ⟨distinct_json h.1, distinctMembers_jsonMembers h.2⟩

end

/-! ### Tables while they grow -/

/-- No key comes twice, neither in a growing table nor in the values it has so far. -/
structure Growing.Distinct (ms : Growing) : Prop where
  keys : (ms.map Prod.fst).Nodup
  values : ∀ m ∈ ms, m.2.toml.Distinct

theorem tomlMembers_eq_map (ms : Growing) : tomlMembers ms = ms.map fun m => (m.1, m.2.toml) := by
  induction ms with
  | nil => rfl
  | cons m ms ih => rw [tomlMembers, ih, List.map_cons]

theorem tomlTables_eq_map (ts : List Growing) :
    tomlTables ts = ts.map fun t => table (tomlMembers t) := by
  induction ts with
  | nil => rfl
  | cons t ts ih => rw [tomlTables, ih, List.map_cons]

theorem distinct_table_iff {ms : Growing} :
    (table (tomlMembers ms)).Distinct ↔ Growing.Distinct ms := by
  have hkeys : (tomlMembers ms).map Prod.fst = ms.map Prod.fst := by
    rw [tomlMembers_eq_map, List.map_map]
    rfl
  rw [Toml.Distinct, hkeys, distinctMembers_iff, tomlMembers_eq_map, List.forall_mem_map]
  exact ⟨fun h => ⟨h.1, h.2⟩, fun h => ⟨h.keys, h.values⟩⟩

theorem distinct_row_iff {ts : List Growing} :
    (Node.row ts).toml.Distinct ↔ ∀ t ∈ ts, Growing.Distinct t := by
  rw [Node.toml, Toml.Distinct, distinctItems_iff, tomlTables_eq_map, List.forall_mem_map]
  exact forall₂_congr fun t _ => distinct_table_iff

theorem distinct_row_append {ts : List Growing} {t : Growing}
    (hts : ∀ u ∈ ts, Growing.Distinct u) (ht : Growing.Distinct t) :
    (Node.row (ts ++ [t])).toml.Distinct := by
  refine distinct_row_iff.mpr ?_
  intro u hu
  rcases List.mem_append.mp hu with hu | hu
  · exact hts u hu
  · rw [List.mem_singleton.mp hu]
    exact ht

namespace Growing.Distinct

variable {ms : Growing} {k : String} {n : Node}

theorem nil : Growing.Distinct [] := ⟨List.nodup_nil, List.forall_mem_nil _⟩

theorem put (h : Growing.Distinct ms) (hn : n.toml.Distinct) :
    Growing.Distinct (Members.put k n ms) := by
  refine ⟨Members.nodup_keys_put k n h.keys, ?_⟩
  intro m hm
  rcases Members.mem_put hm with rfl | hm
  · exact hn
  · exact h.values m hm

theorem append (h : Growing.Distinct ms) (hk : k ∉ ms.map Prod.fst) (hn : n.toml.Distinct) :
    Growing.Distinct (ms ++ [(k, n)]) := by
  rw [← Members.put_of_not_mem n hk]
  exact h.put hn

theorem filter (h : Growing.Distinct ms) (p : String × Node → Bool) :
    Growing.Distinct (ms.filter p) :=
  ⟨h.keys.sublist (List.filter_sublist.map Prod.fst), fun m hm =>
    h.values m (List.mem_filter.mp hm).1⟩

theorem lookup (h : Growing.Distinct ms) (hn : ms.lookup k = some n) : n.toml.Distinct :=
  h.values _ (Members.mem_of_lookup hn)

end Growing.Distinct

/-- What is done at the end of a path keeps keys apart in the whole table if it does there. -/
theorem distinct_within? {made : Origin} {f : Origin → Growing → Option Growing}
    (hf : ∀ {o ms ms'}, f o ms = some ms' → Growing.Distinct ms → Growing.Distinct ms')
    {path : List String} : ∀ {origin : Origin} {ms ms' : Growing},
      within? made f origin ms path = some ms' → Growing.Distinct ms → Growing.Distinct ms' := by
  induction path with
  | nil => exact fun h hms => hf h hms
  | cons k ks ih =>
    intro origin ms ms' h hms
    rw [within?] at h
    cases hlook : ms.lookup k with
    | none =>
      rw [hlook] at h
      obtain ⟨inner, hinner, rfl⟩ := Option.map_eq_some_iff.mp h
      exact hms.put (distinct_table_iff.mpr (ih hinner .nil))
    | some n =>
      have hn := hms.lookup hlook
      rw [hlook] at h
      cases n with
      | value v => cases h
      | table inside inner =>
        dsimp only at h
        split at h
        · cases h
        · obtain ⟨inner', hinner, rfl⟩ := Option.map_eq_some_iff.mp h
          exact hms.put (distinct_table_iff.mpr (ih hinner (distinct_table_iff.mp hn)))
      | row tables =>
        obtain ⟨last, hlast, rfl⟩ := Option.map_eq_some_iff.mp h
        have htables := distinct_row_iff.mp hn
        -- the reader never makes a row without tables, but this is not needed here
        have hold : Growing.Distinct (tables.getLastD []) := by
          rcases List.eq_nil_or_concat tables with rfl | ⟨ts, t, rfl⟩
          · exact .nil
          · rw [List.concat_eq_append, List.getLastD_concat]
            exact htables t (by simp)
        exact hms.put (distinct_row_append
          (fun t ht => htables t (List.dropLast_subset tables ht)) (ih hlast hold))

theorem distinct_addPair? {ms ms' : Growing} {p : Key × Toml} (h : addPair? ms p = some ms')
    (hms : Growing.Distinct ms) (hp : p.2.Distinct) : Growing.Distinct ms' := by
  refine distinct_within? ?_ h hms
  intro o inner inner' hadd hinner
  split at hadd
  · cases hadd
  split at hadd
  · cases hadd
  · rename_i hnew
    cases hadd
    exact hinner.append (Members.not_mem_keys_of_lookup (Option.not_isSome_iff_eq_none.mp hnew)) hp

theorem distinct_foldlM {α : Type} {f : Growing → α → Option Growing} {xs : List α}
    (hf : ∀ x ∈ xs, ∀ {ms ms'}, f ms x = some ms' → Growing.Distinct ms → Growing.Distinct ms') :
    ∀ {ms ms' : Growing}, xs.foldlM f ms = some ms' → Growing.Distinct ms →
      Growing.Distinct ms' := by
  induction xs with
  | nil =>
    intro ms ms' h hms
    cases h
    exact hms
  | cons x xs ih =>
    intro ms ms' h hms
    rw [List.foldlM_cons] at h
    obtain ⟨ms'', hx, hxs⟩ := Option.bind_eq_some_iff.mp h
    exact ih (fun y hy => hf y (List.mem_cons_of_mem x hy)) hxs (hf x List.mem_cons_self hx hms)

/-- A section whose values have no key twice. -/
def Section.Distinct (s : Section) : Prop := ∀ p ∈ s.pairs, p.2.Distinct

theorem distinct_addPairs? {ms ms' : Growing} {ps : List (Key × Toml)}
    (h : addPairs? ms ps = some ms') (hms : Growing.Distinct ms) (hps : ∀ p ∈ ps, p.2.Distinct) :
    Growing.Distinct ms' :=
  distinct_foldlM (fun p hp _ _ h hms => distinct_addPair? h hms (hps p hp)) h hms

theorem distinct_placeSection? {s : Section} {ms ms' : Growing}
    (h : placeSection? s ms = some ms') (hs : s.Distinct) (hms : Growing.Distinct ms) :
    Growing.Distinct ms' := by
  have hnew : ∀ {t : Growing}, addPairs? [] s.pairs = some t → Growing.Distinct t :=
    fun ht => distinct_addPairs? ht .nil hs
  unfold placeSection? at h
  split at h
  · -- a new table
    rename_i hlook
    obtain ⟨t, ht, rfl⟩ := Option.map_eq_some_iff.mp h
    exact hms.append (Members.not_mem_keys_of_lookup hlook) (distinct_table_iff.mpr (hnew ht))
  · -- a table that was passed: it goes to the end under its own key
    rename_i inner hlook
    obtain ⟨t, ht, rfl⟩ := Option.map_eq_some_iff.mp h
    have hinner := distinct_table_iff.mp (hms.lookup hlook)
    refine (hms.filter _).append ?_ (distinct_table_iff.mpr (distinct_addPairs? ht hinner hs))
    intro hk
    obtain ⟨m, hm, hkey⟩ := List.mem_map.mp hk
    have hne := (List.mem_filter.mp hm).2
    simp [hkey] at hne
  · cases h
  · -- a new row
    rename_i hlook
    obtain ⟨t, ht, rfl⟩ := Option.map_eq_some_iff.mp h
    refine hms.append (Members.not_mem_keys_of_lookup hlook) (distinct_row_iff.mpr ?_)
    exact List.forall_mem_singleton.mpr (hnew ht)
  · -- one table more in a row
    rename_i tables hlook
    obtain ⟨t, ht, rfl⟩ := Option.map_eq_some_iff.mp h
    exact hms.put (distinct_row_append (distinct_row_iff.mp (hms.lookup hlook)) (hnew ht))
  · cases h

theorem distinct_ofPairs? {ps : List (Key × Toml)} {t : Toml} (h : ofPairs? ps = some t)
    (hps : ∀ p ∈ ps, p.2.Distinct) : t.Distinct := by
  obtain ⟨ms, hms, rfl⟩ := Option.map_eq_some_iff.mp h
  exact distinct_table_iff.mpr (distinct_addPairs? hms .nil hps)

theorem distinct_ofSections? {first : List (Key × Toml)} {sections : List Section} {t : Toml}
    (h : ofSections? first sections = some t) (hfirst : ∀ p ∈ first, p.2.Distinct)
    (hsections : ∀ s ∈ sections, s.Distinct) : t.Distinct := by
  obtain ⟨ms, hms, h⟩ := Option.bind_eq_some_iff.mp h
  obtain ⟨ms', hms', h⟩ := Option.bind_eq_some_iff.mp h
  cases h
  have hold := distinct_addPairs? hms .nil hfirst
  refine distinct_table_iff.mpr (distinct_foldlM ?_ hms' hold)
  intro s hs ms ms' h hms
  exact distinct_within? (fun h hms => distinct_placeSection? h (hsections s hs) hms) h hms

/-! ### Values that are read -/

theorem distinct_ofInt? {n : Int} {t : Toml} (h : ofInt? n = some t) : t.Distinct := by
  unfold ofInt? at h
  split at h
  · cases h; trivial
  · cases h

theorem distinct_based? {s : List Char} {p : Toml × Text.Shorter s}
    (h : based? s = some (some p)) : p.1.Distinct := by
  unfold based? at h
  split at h
  · split at h
    · obtain ⟨b, -, h⟩ := Option.map_eq_some_iff.mp h
      split at h
      · cases h
      · obtain ⟨t, ht, rfl⟩ := Option.map_eq_some_iff.mp h
        exact distinct_ofInt? ht
    · cases h
  · cases h

theorem distinct_named? {s : List Char} {p : Toml × Text.NoLonger s} (h : named? s = some p) :
    p.1.Distinct := by
  unfold named? at h
  split at h
  split at h
  · cases h; trivial
  · cases h; trivial
  · cases h

theorem distinct_decimal? {s : List Char} {p : Toml × Text.Shorter s}
    (h : decimal? s = some p) : p.1.Distinct := by
  unfold decimal? at h
  split at h
  split at h
  · cases h
  split at h
  · cases h
  split at h
  · cases h
  obtain ⟨t, ht, rfl⟩ := Option.map_eq_some_iff.mp h
  split at ht
  · exact distinct_ofInt? ht
  · obtain ⟨x, -, rfl⟩ := Option.map_eq_some_iff.mp ht
    trivial

/-- Dates, times and numbers hold no tables. -/
theorem distinct_scalar? {s : List Char} {p : Toml × Text.NoLonger s}
    (h : scalar? s = some p) : p.1.Distinct := by
  unfold scalar? at h
  split at h
  · cases h; trivial
  split at h
  · rename_i x hx
    obtain ⟨q, rfl, rfl⟩ := Option.map_eq_some_iff.mp h
    exact distinct_based? hx
  split at h
  · rename_i q hq
    cases h
    exact distinct_named? hq
  · obtain ⟨q, hq, rfl⟩ := Option.map_eq_some_iff.mp h
    exact distinct_decimal? hq

namespace Reader

open Text

mutual

theorem distinct_value? {room : Nat} {s : List Char} {p : Toml × NoLonger s}
    (h : value? room s = some p) : p.1.Distinct := by
  rw [value?.eq_def] at h
  split at h
  · -- an array
    cases room with
    | zero => cases h
    | succ room =>
      obtain ⟨q, hq, rfl⟩ := Option.map_eq_some_iff.mp h
      exact distinctItems_iff.mpr (distinct_items? hq)
  · -- an inline table
    cases room with
    | zero => cases h
    | succ room =>
      dsimp only at h
      split at h
      · cases h
      · rename_i hpairs
        obtain ⟨v, hv, rfl⟩ := Option.map_eq_some_iff.mp h
        exact distinct_ofPairs? hv (distinct_inlinePairs? hpairs)
  · split at h
    · cases h; trivial
    · rcases Option.or_eq_some_iff.mp h with h | ⟨-, h⟩
      · unfold boolean? at h
        split at h
        · cases h; trivial
        · cases h; trivial
        · cases h
      · exact distinct_scalar? h
termination_by (s.length, 0)
decreasing_by all_goals exact Prod.Lex.left _ _ (by assumption)

theorem distinct_items? {room : Nat} {s : List Char} {p : List Toml × Shorter s}
    (h : items? room s = some p) : ∀ t ∈ p.1, t.Distinct := by
  rw [items?.eq_def] at h
  split at h
  split at h
  · cases h
    exact List.forall_mem_nil _
  split at h
  · cases h
  · rename_i v r hr hv
    have hdistinct := distinct_value? hv
    split at h
    split at h
    · obtain ⟨q, hq, rfl⟩ := Option.map_eq_some_iff.mp h
      exact List.forall_mem_cons.mpr ⟨hdistinct, distinct_items? hq⟩
    · cases h
      exact List.forall_mem_singleton.mpr hdistinct
    · cases h
termination_by (s.length, 1)
decreasing_by
  · exact Prod.Lex.right' _ (by assumption) Nat.one_pos
  · exact Prod.Lex.left _ _ (by omega)

theorem distinct_inlinePairs? {room : Nat} {s : List Char}
    {p : List (Key × Toml) × Shorter s} (h : inlinePairs? room s = some p) :
    ∀ q ∈ p.1, q.2.Distinct := by
  rw [inlinePairs?.eq_def] at h
  split at h
  split at h
  · cases h
    exact List.forall_mem_nil _
  split at h
  · cases h
  · rename_i hps
    have hdistinct := distinct_pairsRest? hps
    cases h
    exact hdistinct
termination_by (s.length, 3)
decreasing_by
  exact Prod.Lex.right' _ (by assumption) (Nat.lt_succ_self 2)

theorem distinct_pairsRest? {room : Nat} {s : List Char}
    {p : List (Key × Toml) × Shorter s} (h : pairsRest? room s = some p) :
    ∀ q ∈ p.1, q.2.Distinct := by
  rw [pairsRest?.eq_def] at h
  split at h
  · cases h
  · rename_i q r hr hq
    have hdistinct := distinct_pair? hq
    split at h
    split at h
    · obtain ⟨qs, hqs, rfl⟩ := Option.map_eq_some_iff.mp h
      exact List.forall_mem_cons.mpr ⟨hdistinct, distinct_pairsRest? hqs⟩
    · cases h
      exact List.forall_mem_singleton.mpr hdistinct
    · cases h
termination_by (s.length, 2)
decreasing_by
  · exact Prod.Lex.right _ (by decide)
  · exact Prod.Lex.left _ _ (by omega)

theorem distinct_pair? {room : Nat} {s : List Char} {p : (Key × Toml) × Shorter s}
    (h : pair? room s = some p) : p.1.2.Distinct := by
  rw [pair?.eq_def] at h
  split at h
  · cases h
  · split at h
    · cases h
    · split at h
      obtain ⟨q, hq, rfl⟩ := Option.map_eq_some_iff.mp h
      exact distinct_value? hq
termination_by (s.length, 1)
decreasing_by
  exact Prod.Lex.left _ _ (by omega)

end

/-! ### Lines -/

/-- The value in a line has no key twice. -/
def Line.Distinct : Line → Prop
  | header _ _ => True
  | pair _ v => v.Distinct

theorem distinct_line? {s : List Char} {p : Line × Shorter s} (h : line? s = some p) :
    p.1.Distinct := by
  unfold line? at h
  split at h
  · unfold header? at h
    split at h
    · split at h
      · cases h
      · obtain ⟨q, -, rfl⟩ := Option.map_eq_some_iff.mp h
        trivial
    · split at h
      · cases h
      · obtain ⟨q, -, rfl⟩ := Option.map_eq_some_iff.mp h
        trivial
    · cases h
  · obtain ⟨q, hq, rfl⟩ := Option.map_eq_some_iff.mp h
    exact distinct_pair? hq

theorem distinct_lines? {s : List Char} {ls : List Line} (h : lines? s = some ls) :
    ∀ l ∈ ls, l.Distinct := by
  rw [lines?.eq_def] at h
  split at h
  · cases h
    exact List.forall_mem_nil _
  split at h
  · cases h
  · rename_i hline
    split at h
    · cases h
    · obtain ⟨rest, hrest, rfl⟩ := Option.map_eq_some_iff.mp h
      exact List.forall_mem_cons.mpr ⟨distinct_line? hline, distinct_lines? hrest⟩
termination_by s.length
decreasing_by omega

theorem distinct_sections {ls : List Line} (h : ∀ l ∈ ls, l.Distinct) :
    (∀ p ∈ (sections ls).1, p.2.Distinct) ∧ ∀ s ∈ (sections ls).2, s.Distinct := by
  induction ls with
  | nil => exact ⟨List.forall_mem_nil _, List.forall_mem_nil _⟩
  | cons l ls ih =>
    obtain ⟨hl, hls⟩ := List.forall_mem_cons.mp h
    obtain ⟨hpairs, hsections⟩ := ih hls
    cases l with
    | header k repeated =>
      exact ⟨List.forall_mem_nil _, List.forall_mem_cons.mpr ⟨hpairs, hsections⟩⟩
    | pair k v => exact ⟨List.forall_mem_cons.mpr ⟨hl, hpairs⟩, hsections⟩

end Reader

/-- No table of a TOML text has a key twice. -/
theorem distinct_read? {s : String} {t : Toml} (h : read? s = some t) : t.Distinct := by
  obtain ⟨ls, hls, h⟩ := Option.bind_eq_some_iff.mp h
  obtain ⟨hfirst, hsections⟩ := Reader.distinct_sections (Reader.distinct_lines? hls)
  exact distinct_ofSections? h hfirst hsections

/-! ### Dates and times -/

mutual

theorem distinct_resolved? : ∀ {t u : Toml}, t.resolved? = some u → t.Distinct → u.Distinct
  | string _, _, h, _ | integer _ _, _, h, _ | float _, _, h, _ | boolean _, _, h, _
  | datetime _, _, h, _ => by cases h; trivial
  | array ts, u, h, ht => by
    obtain ⟨us, hus, rfl⟩ := Option.map_eq_some_iff.mp h
    exact distinctItems_resolvedItems? hus ht
  | table ms, u, h, ht => by
    rw [resolved?] at h
    split at h
    · obtain ⟨us, hus, rfl⟩ := Option.map_eq_some_iff.mp h
      obtain ⟨hkeys, hvalues⟩ := distinctMembers_resolvedMembers? hus ht.2
      exact ⟨hkeys ▸ ht.1, hvalues⟩
    · obtain ⟨d, -, rfl⟩ := Option.map_eq_some_iff.mp h
      trivial

theorem distinctItems_resolvedItems? :
    ∀ {ts us : List Toml}, resolvedItems? ts = some us → DistinctItems ts → DistinctItems us
  | [], us, h, _ => by cases h; trivial
  | t :: ts, us, h, ht => by
    rw [resolvedItems?] at h
    split at h
    · rename_i u us hu hus
      cases h
      exact ⟨distinct_resolved? hu ht.1, distinctItems_resolvedItems? hus ht.2⟩
    · cases h

theorem distinctMembers_resolvedMembers? :
    ∀ {ms us : List (String × Toml)}, resolvedMembers? ms = some us → DistinctMembers ms →
      us.map Prod.fst = ms.map Prod.fst ∧ DistinctMembers us
  | [], us, h, _ => by cases h; exact ⟨rfl, trivial⟩
  | (k, t) :: ms, us, h, ht => by
    rw [resolvedMembers?] at h
    split at h
    · rename_i u us hu hus
      cases h
      obtain ⟨hkeys, hvalues⟩ := distinctMembers_resolvedMembers? hus ht.2
      exact ⟨congrArg (k :: ·) hkeys, distinct_resolved? hu ht.1, hvalues⟩
    · cases h

end

end Toml

/-- The document of a TOML text has the value that the text's TOML value turns into: there was
nothing to merge in it. -/
theorem Document.ofTomlText_eq_ok {s : String} {d : Document} :
    Document.ofTomlText s = .ok d ↔
      ∃ t, (Toml.read? s).bind Toml.resolved? = some t ∧ d.value = t.json := by
  have hvalue : ∀ {t : Toml}, (Toml.read? s).bind Toml.resolved? = some t →
      (Document.ofJson t.json).value = t.json := by
    intro t ht
    obtain ⟨u, hu, hut⟩ := Option.bind_eq_some_iff.mp ht
    exact Json.merged_of_distinct
      (Toml.distinct_json (Toml.distinct_resolved? hut (Toml.distinct_read? hu)))
  unfold Document.ofTomlText
  cases ht : (Toml.read? s).bind Toml.resolved? with
  | none => simp
  | some t =>
    constructor
    · intro h
      cases h
      exact ⟨t, rfl, hvalue ht⟩
    · rintro ⟨u, hu, hd⟩
      cases hu
      obtain ⟨v, hv⟩ := d
      obtain rfl : v = t.json := hd
      exact congrArg Except.ok ((Document.mk.injEq ..).mpr (hvalue ht))

/-- The document value of a TOML value is the same tree: at every path there is a node of the one
just if there is a node of the other, and the two correspond; no null is in it; and of values with
neither dates nor times nor numbers that are not finite it has only the one that turns into it.
This tree is what the document of a TOML text holds. -/
theorem Toml.json_keeps_tree :
    (∀ t : Toml,
      (∀ p : Path, Option.Rel Corresponds (t.node? p) (t.json.node? p)) ∧
      (∀ e, (Entry.root t.json).Reaches e → e.value ≠ .null) ∧
      ∀ u : Toml, t.isDirect = true → u.isDirect = true → t.json = u.json → t = u) ∧
    ∀ (s : String) (d : Document), Document.ofTomlText s = .ok d ↔
      ∃ t, (Toml.read? s).bind Toml.resolved? = some t ∧ d.value = t.json := by
  refine ⟨?_, fun s d => Document.ofTomlText_eq_ok⟩
  intro t
  exact ⟨t.node?_corresponds, fun e => ne_null_of_reaches, fun u ht hu => (json_inj ht hu).mp⟩

/-- An array with nodes of every kind, of which an infinite one becomes the same as a string. -/
theorem Toml.json_keeps_tree_of_kinds :
    let once : Toml := .table [("n", .array [.integer 0 (by decide), .float (.finite (.zero true))]),
      ("b", .table [("s", .string "inf"), ("t", .boolean true)])]
    let again : Toml := .table (["n", "b"].zip [
      .array [.integer (1 - 1) (by decide), .float (.finite (.zero true))],
      .table [("s", .string "inf"), ("t", .boolean (!false))]])
    let t : Toml := .array [once, .float (.infinite false),
      .datetime (.date ⟨2019, 8, 4, by decide, by decide, by decide⟩)]
    (∀ p : Path, Option.Rel Corresponds (t.node? p) (t.json.node? p)) ∧
    t.json.node? [.place 0, .key "n", .place 1] = some (.number (.double (.zero true))) ∧
    t.json.node? [.place 0, .key "n", .key "s"] = none ∧
    t.json.node? [.place 1] = t.json.node? [.place 0, .key "b", .key "s"] ∧
    t.json.node? [.place 2] = some (.string "2019-08-04") ∧
    (∃ e, (Entry.root t.json).Reaches e ∧ e.index = some 2 ∧ e.value ≠ .null) ∧
    once.isDirect = true ∧ again.isDirect = true ∧ once.json = again.json ∧ once = again := by
  intro once again t
  have he : (Entry.root t.json).Reaches ⟨.root, some 2, .string "2019-08-04"⟩ :=
    Entry.reaches_of_mem_children
      (Entry.mem_elements.mpr ⟨2, .string "2019-08-04", by rfl, rfl⟩)
  refine ⟨(Toml.json_keeps_tree.1 t).1, rfl, rfl, rfl, by rfl, ?_, rfl, rfl, rfl, ?_⟩
  · exact ⟨_, he, rfl, (Toml.json_keeps_tree.1 t).2.1 _ he⟩
  · exact (Toml.json_keeps_tree.1 once).2.2 again rfl rfl rfl

end PathQuery
