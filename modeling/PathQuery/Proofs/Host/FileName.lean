import Mathlib.Data.List.Basic
import PathQuery.Host.Path

/-! # Names of files

The path of a file is its name, alone or after directories (`Path.LeadsTo`).  What the tests of
paths say of it is a matter of that name: whether it is the dash that stands for the standard
input (`Path.isDash_iff`), and whether it ends in a point and `toml` in small or capital letters
(`Path.isToml_iff`). -/
namespace PathQuery

namespace Text

theorem split_of_not_mem {c : Char} {s : List Char} (h : c ∉ s) : split c s = [s] := by
  induction s with
  | nil => rfl
  | cons d s ih =>
    obtain ⟨hd, hs⟩ := not_or.mp (mt List.mem_cons.mpr h)
    simp only [split, if_neg (Ne.symm hd), ih hs]

theorem split_append_cons (c : Char) (s t : List Char) :
    split c (s ++ c :: t) = split c s ++ split c t := by
  induction s with
  | nil => simp [split]
  | cons d s ih =>
    by_cases hd : d = c
    · simp only [List.cons_append, split, if_pos hd, ih]
    · obtain ⟨p, ps, hp⟩ := List.exists_cons_of_ne_nil (split_ne_nil c s)
      simp only [List.cons_append, split, if_neg hd, ih, hp]

theorem split_eq_singleton_nil_iff {c : Char} {s : List Char} : split c s = [[]] ↔ s = [] := by
  constructor
  · intro h
    rw [← join_split c s, h]
    rfl
  · rintro rfl
    rfl

/-- The last place of a character that occurs. -/
theorem exists_last_of_mem {c : Char} {s : List Char} (h : c ∈ s) :
    ∃ u v, s = u ++ c :: v ∧ c ∉ v := by
  obtain ⟨v, u, hs, hv⟩ := List.eq_append_cons_of_mem (List.mem_reverse.mpr h)
  refine ⟨u.reverse, v.reverse, ?_, fun hc => hv (List.mem_reverse.mp hc)⟩
  rw [← List.reverse_reverse s, hs]
  simp

theorem lowerCase_eq_toLower (c : Char) : lowerCase c = c.toLower := by
  by_cases h : 'A' ≤ c ∧ c ≤ 'Z'
  · have hle : c.toNat ≤ 90 := h.2
    have hval : c.toLower.val = c.val + 32 := congrArg Char.val (dif_pos h)
    have hlower : c.toLower.toNat = c.toNat + 32 := by
      rw [Char.toNat, hval, UInt32.toNat_add]
      exact Nat.mod_eq_of_lt (show c.toNat + 32 < 2 ^ 32 by omega)
    rw [lowerCase, if_pos h, ← hlower, Char.ofNat_toNat]
  · have hlower : c.toLower = c := dif_neg h
    rw [lowerCase, if_neg h, hlower]

end Text

namespace Path

open Text

/-- A name that a file may have: a part of a path that leads somewhere. -/
structure IsName (n : List Char) : Prop where
  noSlash : '/' ∉ n
  ne_nil : n ≠ []
  ne_point : n ≠ ['.']
  ne_points : n ≠ ['.', '.']

/-- The path of a file with a name, alone or after directories. -/
inductive LeadsTo (p : String) (n : List Char) : Prop
  | plain (hp : p.toList = n) (hn : IsName n)
  | after {d : List Char} (hp : p.toList = d ++ '/' :: n) (hn : IsName n)

/-- The name has the extension `toml` in any letter case, and something before it. -/
def IsTomlName (n : List Char) : Prop :=
  ∃ stem ext, stem ≠ [] ∧ n = stem ++ '.' :: ext ∧ ext.map Char.toLower = ['t', 'o', 'm', 'l']

variable {p : String} {n : List Char}

theorem IsName.not_isIdle (h : IsName n) : isIdle n = false := by
  simp [isIdle, h.ne_nil, h.ne_point]

theorem LeadsTo.isName (h : LeadsTo p n) : IsName n := by
  cases h <;> assumption

/-- The name is the last part of the path. -/
theorem LeadsTo.exists_parts (h : LeadsTo p n) : ∃ ds, parts p = ds ++ [n] := by
  cases h with
  | plain hp hn => exact ⟨[], by rw [parts, hp, split_of_not_mem hn.noSlash]; rfl⟩
  | @after d hp hn =>
    exact ⟨split '/' d, by rw [parts, hp, split_append_cons, split_of_not_mem hn.noSlash]⟩

theorem fileName?_eq (h : LeadsTo p n) : fileName? p = some n := by
  obtain ⟨ds, hds⟩ := h.exists_parts
  have hn := h.isName
  simp [fileName?, hds, hn.not_isIdle, hn.ne_points]

/-- Of the files, only one with a dash for its whole path is taken for the standard input. -/
theorem isDash_iff (h : LeadsTo p n) : isDash p = true ↔ p = "-" := by
  constructor
  · intro hdash
    cases h with
    | plain hp hn =>
      simp only [isDash, parts, hp, split_of_not_mem hn.noSlash, Bool.and_eq_true,
        beq_iff_eq] at hdash
      rw [hdash.1] at hp
      exact String.toList_inj.mp hp
    | @after d hp hn =>
      -- the name is a part after the first, and leads somewhere
      obtain ⟨x, xs, hx⟩ := List.exists_cons_of_ne_nil (split_ne_nil '/' d)
      simp [isDash, parts, hp, split_append_cons, hx, split_of_not_mem hn.noSlash,
        hn.not_isIdle] at hdash
  · rintro rfl
    decide

/-- The extension is what follows the last point, if something stands before it. -/
theorem extension?_of_point {stem ext : List Char} (h : LeadsTo p (stem ++ '.' :: ext))
    (hext : '.' ∉ ext) : extension? p = if stem = [] then none else some ext := by
  have hsplit : split '.' (stem ++ '.' :: ext) = split '.' stem ++ [ext] := by
    rw [split_append_cons, split_of_not_mem hext]
  simp only [extension?, fileName?_eq h, Option.bind_some, hsplit, List.reverse_append,
    List.reverse_singleton, List.singleton_append]
  refine if_congr ?_ rfl rfl
  rw [← split_eq_singleton_nil_iff (c := '.')]
  obtain ⟨x, xs, hx⟩ := List.exists_cons_of_ne_nil (split_ne_nil '.' stem)
  cases xs <;> simp [hx]

theorem extension?_of_not_mem (h : LeadsTo p n) (hn : '.' ∉ n) : extension? p = none := by
  simp [extension?, fileName?_eq h, split_of_not_mem hn]

theorem isToml_iff (h : LeadsTo p n) : isToml p = true ↔ IsTomlName n := by
  have hlower : lowerCase = Char.toLower := funext lowerCase_eq_toLower
  simp only [isToml, beq_iff_eq, Option.map_eq_some_iff, hlower]
  constructor
  · rintro ⟨ext, hext, htoml⟩
    by_cases hn : '.' ∈ n
    · obtain ⟨stem, ext', rfl, hext'⟩ := exists_last_of_mem hn
      rw [extension?_of_point h hext'] at hext
      split at hext
      · cases hext
      · rename_i hstem
        obtain rfl := Option.some.inj hext
        exact ⟨stem, ext', hstem, rfl, htoml⟩
    · rw [extension?_of_not_mem h hn] at hext
      cases hext
  · rintro ⟨stem, ext, hstem, rfl, htoml⟩
    -- there is no point among the letters, so this one is the last
    have hext : '.' ∉ ext := by
      intro hmem
      have hpoint := List.mem_map_of_mem (f := Char.toLower) hmem
      rw [htoml] at hpoint
      exact absurd hpoint (by decide)
    exact ⟨ext, by rw [extension?_of_point h hext, if_neg hstem], htoml⟩

end Path

end PathQuery
