import PathQuery.Proofs.Query.Calls
import PathQuery.Proofs.Query.FaultPlaces

/-! # Reading makes progress

Whatever part of a query a reader is asked for, it takes something off the text, and it asks
others only for parts of a shorter text, or of the same text one level down in the grammar
(`Part.plan_proceeds`, one case for each part).  So reading ends: followed down to a depth that
the length of the text bounds, the plans of the readers need no further answers
(`Part.unrolled_eq_read`).  And it fails only for a fault in the text, or for a pattern in it
that cannot be compiled. -/
namespace PathQuery

namespace Text

/-! ### Proper ends of a text -/

/-- A proper end of a text: what is left once something has been taken off its front. -/
structure ProperEnd (r s : List Char) : Prop where
  isSuffix : r <:+ s
  length_lt : r.length < s.length

variable {s t r : List Char} {c : Char}

theorem properEnd_iff : ProperEnd r s ↔ r <:+ s ∧ r ≠ s := by
  constructor
  · rintro ⟨hs, hlen⟩
    exact ⟨hs, fun h => absurd (congrArg List.length h) (Nat.ne_of_lt hlen)⟩
  · rintro ⟨hs, hne⟩
    exact ⟨hs, Nat.lt_of_le_of_ne hs.length_le fun h => hne (hs.eq_of_length h)⟩

theorem ProperEnd.trans_suffix (hr : ProperEnd r t) (ht : t <:+ s) : ProperEnd r s :=
  ⟨hr.isSuffix.trans ht, Nat.lt_of_lt_of_le hr.length_lt ht.length_le⟩

theorem ProperEnd.suffix_trans (ht : ProperEnd t s) (hr : r <:+ t) : ProperEnd r s :=
  ⟨hr.trans ht.isSuffix, Nat.lt_of_le_of_lt hr.length_le ht.length_lt⟩

theorem properEnd_append {w : List Char} (hw : w ≠ []) (r : List Char) : ProperEnd r (w ++ r) :=
  ⟨List.suffix_append w r, by
    have := List.length_pos_of_ne_nil hw
    rw [List.length_append]
    omega⟩

theorem properEnd_after (h : after? c s = some r) : ProperEnd r s := by
  obtain rfl := after?_eq_some.mp h
  exact properEnd_append (List.cons_ne_nil c []) r

theorem properEnd_dropWhile {p : Char → Bool} (h : s.takeWhile p ≠ []) :
    ProperEnd (s.dropWhile p) s := by
  have := properEnd_append h (s.dropWhile p)
  rwa [List.takeWhile_append_dropWhile] at this

end Text

namespace Query.Reader

open Text Grammar

/-! ### What a reader may leave over, and how it may fail -/

namespace Part

/-- Whether the reader only goes on with more of the same, and so may leave all of the text. -/
def isLoop : Part → Bool
  | conjunctionRest _ | disjunctionRest _ | items _ _ => true
  | _ => false

/-- How far up in the grammar a part is. -/
def level : Part → Nat
  -- what follows operands is never all that is left of another part's text
  | quoted | name | literal | conjunctionRest _ | disjunctionRest _ => 0
  | leaf | item _ _ => 1
  | unary | items _ _ => 2
  | conjunction => 3
  | disjunction => 4
  | selector => 5

theorem level_le (k : Part) : k.level ≤ 5 := by
  cases k <;> simp [level]

/-- Bounds the calls inside each other that it takes to read a part off a text. -/
def depth (k : Part) (s : List Char) : Nat := 6 * s.length + k.level

/-- A part of a proper end of the text, or one of all the text that is one level down. -/
def Below (l : Part) (t : List Char) (k : Part) (s : List Char) : Prop :=
  ProperEnd t s ∨ t = s ∧ l.level + 1 = k.level

theorem Below.depth_lt {l k : Part} {t s : List Char} (h : Below l t k s) :
    l.depth t < k.depth s := by
  have := l.level_le
  rw [depth, depth]
  rcases h with h | ⟨rfl, h⟩
  · have := h.length_lt
    omega
  · omega

theorem Below.isSuffix {l k : Part} {t s : List Char} (h : Below l t k s) : t <:+ s := by
  rcases h with h | ⟨rfl, -⟩
  · exact h.isSuffix
  · exact List.suffix_refl t

/-- The reader may leave this rest of the text. -/
structure Leaves (k : Part) (s r : List Char) : Prop where
  isSuffix : r <:+ s
  properEnd : k.isLoop = false → ProperEnd r s

theorem leaves_of_properEnd {k : Part} {s r : List Char} (h : ProperEnd r s) : k.Leaves s r :=
  ⟨h.isSuffix, fun _ => h⟩

end Part

/-- In the text there is a match with a pattern that cannot be compiled. -/
inductive BadPattern : List Char → Prop where
  | mk {v b d y w r : List Char} {k : String} {l : Literal} (hk : Key w k) (hb : Blanks b)
      (hd : Blanks d) (hl : Constant y l) (hbad : Pattern.compile? l.text = none) :
      BadPattern (v ++ (w ++ b ++ ['~', '='] ++ d ++ y) ++ r)

theorem BadPattern.of_suffix {r s : List Char} (h : BadPattern r) (hr : r <:+ s) :
    BadPattern s := by
  obtain ⟨u, rfl⟩ := hr
  obtain @⟨v, b, d, y, w, r, k, l, hk, hb, hd, hl, hbad⟩ := h
  simpa using BadPattern.mk (v := u ++ v) (r := r) hk hb hd hl hbad

/-- What reading a part of a text may fail for. -/
def FailsFor (s : List Char) (e : Error) : Prop :=
  (∃ f, e = .query f) ∨ e = .pattern ∧ BadPattern s

theorem failsFor_query (s : List Char) (f : QueryFault) : FailsFor s (.query f) := .inl ⟨f, rfl⟩

theorem FailsFor.of_suffix {r s : List Char} {e : Error} (h : FailsFor r e) (hr : r <:+ s) :
    FailsFor s e :=
  h.imp id fun ⟨he, hbad⟩ => ⟨he, hbad.of_suffix hr⟩

/-! ### What holds along a plan -/

namespace Plan

/-- All calls of the plan satisfy `C`, its result `R` and the errors that are its own `E`, if
the answers to the calls satisfy `A`. -/
def Keeps {α : Type} (C : Part → List Char → Prop)
    (A : (k : Part) → List Char → k.Result × List Char → Prop) (R : α → Prop)
    (E : Error → Prop) : Plan α → Prop
  | done (.ok x) => R x
  | done (.error e) => E e
  | call k s next => C k s ∧ ∀ x, A k s x → (next x).Keeps C A R E

variable {α : Type} {C : Part → List Char → Prop}
  {A : (k : Part) → List Char → k.Result × List Char → Prop} {R : α → Prop} {E : Error → Prop}
  {answer : (k : Part) → List Char → k.Answer} {p : Plan α}

theorem Keeps.calls (h : p.Keeps C A R E)
    (hA : ∀ k s x, C k s → answer k s = .ok x → A k s x) :
    ∀ c ∈ p.calls answer, C c.1 c.2 := by
  induction p with
  | done x =>
    intro c hc
    cases hc
  | call k s next ih =>
    obtain ⟨hfirst, hnext⟩ := h
    rw [Plan.calls]
    refine List.forall_mem_cons.mpr ⟨hfirst, ?_⟩
    cases hx : answer k s with
    | error e =>
      intro c hc
      cases hc
    | ok x => exact ih x (hnext x (hA k s x hfirst hx))

theorem Keeps.run (h : p.Keeps C A R E)
    (hA : ∀ k s x, C k s → answer k s = .ok x → A k s x)
    (hE : ∀ k s e, C k s → answer k s = .error e → E e) :
    (∀ x, p.run answer = .ok x → R x) ∧ ∀ e, p.run answer = .error e → E e := by
  induction p with
  | done x =>
    rw [Plan.run]
    constructor
    · rintro x rfl
      exact h
    · rintro e rfl
      exact h
  | call k s next ih =>
    obtain ⟨hfirst, hnext⟩ := h
    rw [Plan.run]
    cases hx : answer k s with
    | error e =>
      refine ⟨fun x h => (by cases h), fun e' h => ?_⟩
      obtain rfl := Except.error.inj h
      exact hE k s e hfirst hx
    | ok x => exact ih x (hnext x (hA k s x hfirst hx))

end Plan

namespace Part

/-- What a reader hands back, and what it may leave over. -/
def Answers (k : Part) (s : List Char) (x : k.Result × List Char) : Prop :=
  k.read s = .ok x ∧ k.Leaves s x.2

/-- The plan is one for a part of a text: it makes calls below it, leaves over what it may, and
fails for what it may. -/
def Proceeds (k : Part) (s : List Char) : Plan (k.Result × List Char) → Prop :=
  Plan.Keeps (fun l t => Below l t k s) Answers (fun x => k.Leaves s x.2) (FailsFor s)

/-! ### Each plan proceeds -/

section

variable {k l : Part} {s t r : List Char}

theorem Answers.properEnd {x : l.Result × List Char} (h : l.Answers t x)
    (hl : l.isLoop = false) (ht : t <:+ s) : ProperEnd x.2 s :=
  (h.2.properEnd hl).trans_suffix ht

/-- Without the blanks in front a text is a proper end, or still the same. -/
theorem below_trimStart (hlevel : l.level + 1 = k.level) (s : List Char) :
    Below l (trimStart s) k s := by
  by_cases hs : trimStart s = s
  · exact .inr ⟨hs, hlevel⟩
  · exact .inl (properEnd_iff.mpr ⟨trimStart_suffix s, hs⟩)

/-- A reader may end by calling another one on a proper end of the text. -/
theorem keeps_last (h : ProperEnd t s) :
    (last l t).Keeps (fun l t => Below l t k s) Answers (fun x => k.Leaves s x.2) (FailsFor s) :=
  ⟨.inl h, fun _ hx => leaves_of_properEnd (h.suffix_trans hx.2.isSuffix)⟩

theorem keeps_closing {α : Type} {c : Char} {what : Expected} {a : α}
    {C : Part → List Char → Prop} {A : (k : Part) → List Char → k.Result × List Char → Prop}
    (hr : ∀ r, ProperEnd r t → k.Leaves s r) :
    (closing c what a t).Keeps C A (fun x => k.Leaves s x.2) (FailsFor s) := by
  rw [closing]
  split
  · rename_i r h
    exact hr r (properEnd_after h)
  · exact failsFor_query s _

theorem proceeds_quoted (s : List Char) : Proceeds .quoted s (plan .quoted s) := by
  rw [plan]
  split
  · rename_i x h
    obtain ⟨w, -, rfl⟩ := inside_of_readRest? (h : Quoted.readRest? false s = some (x.1, x.2))
    refine leaves_of_properEnd ?_
    have := properEnd_append (List.cons_ne_nil '"' []) x.2
    exact this.trans_suffix (List.suffix_append w _)
  · exact failsFor_query s _

theorem proceeds_name (s : List Char) : Proceeds .name s (plan .name s) := by
  cases hq : after? '"' s with
  | some r =>
    simp only [plan, hq]
    have hr := properEnd_after hq
    exact ⟨.inl hr, fun x hx => leaves_of_properEnd (hx.properEnd rfl hr.isSuffix)⟩
  | none =>
    cases ha : after? '*' s with
    | some r =>
      simp only [plan, hq, ha]
      exact leaves_of_properEnd (properEnd_after ha)
    | none =>
      cases hw : s.takeWhile Word.isNameChar with
      | nil =>
        simp only [plan, hq, ha, hw]
        exact failsFor_query s _
      | cons c w =>
        simp only [plan, hq, ha, hw]
        exact leaves_of_properEnd (properEnd_dropWhile (by simp [hw]))

theorem proceeds_literal (s : List Char) : Proceeds .literal s (plan .literal s) := by
  cases hq : after? '"' s with
  | some r =>
    simp only [plan, hq]
    have hr := properEnd_after hq
    exact ⟨.inl hr, fun x hx => leaves_of_properEnd (hx.properEnd rfl hr.isSuffix)⟩
  | none =>
    cases hw : s.takeWhile fun c => !Word.isDelimiter c with
    | nil =>
      simp only [plan, hq, hw]
      exact failsFor_query s _
    | cons c w =>
      simp only [plan, hq, hw]
      exact leaves_of_properEnd (properEnd_dropWhile (by simp [hw]))

/-- A pattern that cannot be compiled is what a comparison fails for. -/
theorem badPattern_of_comparison {field : String} {o : Operator} {y : Literal} {e : Error}
    (h : comparison field o y = .error e) :
    o = none ∧ e = .pattern ∧ Pattern.compile? y.text = none := by
  cases o with
  | some op => cases h
  | none =>
    rw [comparison] at h
    split at h
    · cases h
    · rename_i hm
      exact ⟨rfl, (Except.error.inj h).symm, Option.map_eq_none_iff.mp hm⟩

theorem proceeds_leaf (s : List Char) : Proceeds .leaf s (plan .leaf s) := by
  refine ⟨.inr ⟨rfl, rfl⟩, fun x hx => ?_⟩
  have hrest := hx.properEnd rfl (List.suffix_refl s)
  obtain ⟨w, t⟩ := x
  cases w with
  | wildcard => exact failsFor_query s _
  | key field =>
    cases ho : operator? (trimStart t) with
    | none =>
      simp only [ho]
      exact leaves_of_properEnd hrest
    | some x =>
      obtain ⟨o, u⟩ := x
      obtain ⟨z, hz, hu⟩ := sign_of_operator? ho
      have hsuffix : trimStart u <:+ t := by
        refine (trimStart_suffix u).trans (List.IsSuffix.trans ?_ (trimStart_suffix t))
        rw [hu]
        exact List.suffix_append z u
      have hliteral := hrest.suffix_trans hsuffix
      simp only [ho]
      refine ⟨.inl hliteral, fun y hy => ?_⟩
      cases hc : comparison field o y.1 with
      | ok p =>
        simp only [hc]
        exact leaves_of_properEnd (hy.properEnd rfl hliteral.isSuffix)
      | error e =>
        obtain ⟨rfl, rfl, hbad⟩ := badPattern_of_comparison hc
        simp only [hc]
        refine .inr ⟨rfl, ?_⟩
        -- the text is the key, the sign and the literal, with blanks between them
        rcases written_of_name hx.1 with ⟨hw, -⟩ | ⟨w, k, hw, hk, hs⟩
        · cases hw
        · obtain rfl := Written.key.inj hw
          obtain ⟨b, hb, ht⟩ := exists_blanks_trimStart t
          obtain ⟨d, hd, hv⟩ := exists_blanks_trimStart u
          obtain ⟨v, hl, hr⟩ := constant_of_literal hy.1
          cases hz
          have := BadPattern.mk (v := []) (r := y.2) hk hb hd hl hbad
          rw [hs, ht, hu, hv, hr]
          simpa using this

theorem proceeds_unary (s : List Char) : Proceeds .unary s (plan .unary s) := by
  have htrim := trimStart_suffix s
  cases hnot : after? '!' (trimStart s) with
  | some r =>
    have hr := (properEnd_after hnot).trans_suffix htrim
    simp only [plan, hnot]
    exact ⟨.inl hr, fun x hx => leaves_of_properEnd (hx.properEnd rfl hr.isSuffix)⟩
  | none =>
    cases hopen : after? '(' (trimStart s) with
    | some r =>
      have hr := (properEnd_after hopen).trans_suffix htrim
      simp only [plan, hnot, hopen]
      refine ⟨.inl hr, fun x hx => keeps_closing fun u hu => leaves_of_properEnd ?_⟩
      have hx := hx.properEnd rfl hr.isSuffix
      exact (hx.suffix_trans (trimStart_suffix _)).suffix_trans hu.isSuffix
    | none =>
      simp only [plan, hnot, hopen]
      exact ⟨below_trimStart rfl s, fun x hx => leaves_of_properEnd (hx.properEnd rfl htrim)⟩

/-- What follows operands proceeds, if what comes after a further one does. -/
theorem proceeds_rest {mark : Char} {a : k.Result} {next : l.Result × List Char → Plan _}
    (hk : k.isLoop = true) (hl : l.isLoop = false)
    (hnext : ∀ x, ProperEnd x.2 s → Proceeds k s (next x)) :
    Proceeds k s
      (match after? mark (trimStart s) with
        | none => .done (.ok (a, s))
        | some r => .call l r next) := by
  cases hmark : after? mark (trimStart s) with
  | none => exact ⟨List.suffix_refl s, fun h => by rw [hk] at h; cases h⟩
  | some r =>
    have hr := (properEnd_after hmark).trans_suffix (trimStart_suffix s)
    exact ⟨.inl hr, fun x hx => hnext x (hx.properEnd hl hr.isSuffix)⟩

theorem proceeds_selector (s : List Char) : Proceeds .selector s (plan .selector s) := by
  have htrim := trimStart_suffix s
  cases hplace : placed? s with
  | some x =>
    simp only [plan, hplace]
    split
    · obtain ⟨w, -, rfl⟩ := ordinal_of_placed? (hplace : placed? s = some (x.1, x.2))
      have := properEnd_append (List.cons_ne_nil ']' []) x.2
      exact leaves_of_properEnd (this.trans_suffix (List.suffix_append w _))
    · exact failsFor_query s _
  | none =>
    simp only [plan, hplace]
    refine ⟨below_trimStart rfl s, fun x hx => keeps_closing fun u hu => leaves_of_properEnd ?_⟩
    have hx := hx.properEnd rfl htrim
    exact (hx.suffix_trans (trimStart_suffix _)).suffix_trans hu.isSuffix

theorem keeps_named {query : List Char} {first : Bool} (h : Below .name t (.item query first) s) :
    Proceeds (.item query first) s (named t) :=
  ⟨h, fun _ hx => leaves_of_properEnd (hx.properEnd rfl h.isSuffix)⟩

theorem proceeds_item (query : List Char) (first : Bool) (s : List Char) :
    Proceeds (.item query first) s (plan (.item query first) s) := by
  cases hpoints : afterPoints? s with
  | some r =>
    obtain rfl := afterPoints?_eq_some.mp hpoints
    have hr := properEnd_append (List.cons_ne_nil '.' ['.']) r
    simp only [plan, hpoints]
    refine ⟨.inl hr, fun x hx => ?_⟩
    obtain ⟨w, t⟩ := x
    cases w with
    | wildcard => exact failsFor_query _ _
    | key k => exact leaves_of_properEnd (hx.properEnd rfl hr.isSuffix)
  | none =>
    cases hbracket : after? '[' s with
    | some r =>
      simp only [plan, hpoints, hbracket]
      exact keeps_last (properEnd_after hbracket)
    | none =>
      simp only [plan, hpoints, hbracket]
      split
      · exact keeps_named (.inr ⟨rfl, rfl⟩)
      · split
        · exact failsFor_query s _
        · rename_i r hpoint
          exact keeps_named (.inl (properEnd_after hpoint))

theorem proceeds_items (query : List Char) (first : Bool) (s : List Char) :
    Proceeds (.items query first) s (plan (.items query first) s) := by
  cases s with
  | nil => exact ⟨List.suffix_refl [], fun h => by cases h⟩
  | cons c s =>
    refine ⟨.inr ⟨rfl, rfl⟩, fun x hx => ?_⟩
    have hrest := hx.properEnd rfl (List.suffix_refl (c :: s))
    exact ⟨.inl hrest, fun y hy => leaves_of_properEnd (hrest.suffix_trans hy.2.isSuffix)⟩

/-- **One step.**  The plan of each part makes calls below it only, and leaves over and fails for
what it may if that holds of what it calls. -/
theorem plan_proceeds (k : Part) (s : List Char) : Proceeds k s (k.plan s) := by
  cases k with
  | quoted => exact proceeds_quoted s
  | name => exact proceeds_name s
  | literal => exact proceeds_literal s
  | leaf => exact proceeds_leaf s
  | unary => exact proceeds_unary s
  | conjunction | disjunction =>
    exact ⟨.inr ⟨rfl, rfl⟩, fun x hx => keeps_last (hx.properEnd rfl (List.suffix_refl s))⟩
  | conjunctionRest p | disjunctionRest p =>
    exact proceeds_rest rfl rfl fun x hx => keeps_last hx
  | selector => exact proceeds_selector s
  | item query first => exact proceeds_item query first s
  | items query first => exact proceeds_items query first s

end

/-! ### Whole runs -/

/-- **A whole run.**  What the reader of a part hands back leaves over what it may, and it fails
for what it may.  The induction is on the depth, which is less for every call of a plan. -/
theorem read_sound (k : Part) (s : List Char) :
    (∀ x, k.read s = .ok x → k.Leaves s x.2) ∧ ∀ e, k.read s = .error e → FailsFor s e := by
  induction hn : k.depth s using Nat.strong_induction_on generalizing k s with
  | h n ih =>
    subst hn
    rw [read_eq_run]
    -- the plan keeps what it should if its calls do, and these are less deep
    refine (plan_proceeds k s).run (fun l t x hbelow hx => ?_) fun l t e hbelow he => ?_
    · exact ⟨hx, (ih _ hbelow.depth_lt l t rfl).1 x hx⟩
    · exact ((ih _ hbelow.depth_lt l t rfl).2 e he).of_suffix hbelow.isSuffix

/-- The calls that a reader makes are below its own. -/
theorem calls_below (k : Part) (s : List Char) :
    ∀ c ∈ (k.plan s).calls read, Below c.1 c.2 k s :=
  (plan_proceeds k s).calls fun l t x _ hx => ⟨hx, (read_sound l t).1 x hx⟩

/-- The plans of the parts, followed `n` calls deep; calls further down are answered by
`answer`. -/
def unrolled (answer : (k : Part) → List Char → k.Answer) : Nat → (k : Part) → List Char → k.Answer
  | 0, k, s => answer k s
  | n + 1, k, s => (k.plan s).run (unrolled answer n)

/-- **Reading ends.**  Followed further down than the depth of a part, its plan makes no call
that another has to answer. -/
theorem unrolled_eq_read (answer : (k : Part) → List Char → k.Answer) {n : Nat} {k : Part}
    {s : List Char} (h : k.depth s < n) : unrolled answer n k s = k.read s := by
  induction n generalizing k s with
  | zero => exact absurd h (Nat.not_lt_zero _)
  | succ n ih =>
    rw [unrolled, read_eq_run]
    -- only the calls that are made count, not all that the plan could make
    refine (Plan.run_congr fun c hc => ?_).symm
    have hdepth := (calls_below k s c hc).depth_lt
    exact (ih (by omega)).symm

end Part

end Query.Reader

namespace Query

open Text Reader

theorem read_eq_items (s : String) :
    read s = ((Part.items (trim s.toList) true).read (dropPoint (trim s.toList))).map
      fun x => ⟨x.1⟩ := by
  rw [read, readTrimmed_eq_map, Part.read]
  cases items (trim s.toList) true (dropPoint (trim s.toList)) <;> rfl

theorem dropPoint_suffix (t : List Char) : dropPoint t <:+ t := by
  rcases dropPoint_cases t with h | ⟨h, -⟩
  · exact ⟨[], h⟩
  · exact ⟨['.'], h.symm⟩

/-- **Reading makes progress and ends.**  A reader that reads a part, and not just more of the
same, leaves a proper end of its text.  It does what its plan says, and all the calls of
the plan are for proper ends of the text, or for the text itself one level down in the grammar.
So plans that are followed as deep as the length of the text tells need no further answers,
those for a whole query among them.  And what is not read as a query has a fault, or a pattern
in it that cannot be compiled. -/
theorem read_progresses :
    (∀ (k : Part) (s : List Char) (x : k.Result) (r : List Char), k.read s = .ok (x, r) →
      r <:+ s ∧ (k.isLoop = false → r ≠ s)) ∧
    (∀ (k : Part) (s : List Char), k.read s = (k.plan s).run Part.read ∧
      ∀ c ∈ (k.plan s).calls Part.read,
        c.2 <:+ s ∧ (c.2 ≠ s ∨ c.2 = s ∧ c.1.level + 1 = k.level)) ∧
    (∀ (answer : (k : Part) → List Char → k.Answer) (k : Part) (s : List Char) (n : Nat),
      6 * s.length + k.level < n → Part.unrolled answer n k s = k.read s) ∧
    (∀ (answer : (k : Part) → List Char → k.Answer) (s : String) (n : Nat),
      6 * (trim s.toList).length + 2 < n →
        read s = (Part.unrolled answer n (.items (trim s.toList) true)
          (dropPoint (trim s.toList))).map fun x => ⟨x.1⟩) ∧
    ∀ s : String, (∃ q, read s = .ok q) ∨ (∃ f, read s = .error (.query f)) ∨
      read s = .error .pattern ∧ BadPattern (trim s.toList) := by
  refine ⟨fun k s x r h => ?_, fun k s => ⟨Part.read_eq_run k s, fun c hc => ?_⟩,
    fun answer k s n h => Part.unrolled_eq_read answer h, fun answer s n h => ?_, fun s => ?_⟩
  · have hleaves := (Part.read_sound k s).1 (x, r) h
    exact ⟨hleaves.isSuffix, fun hk => (properEnd_iff.mp (hleaves.properEnd hk)).2⟩
  · have hbelow := Part.calls_below k s c hc
    exact ⟨hbelow.isSuffix, hbelow.imp (fun h => (properEnd_iff.mp h).2) id⟩
  · have hlength := (dropPoint_suffix (trim s.toList)).length_le
    rw [read_eq_items, Part.unrolled_eq_read]
    show 6 * (dropPoint (trim s.toList)).length + 2 < n
    omega
  · have hsound := (Part.read_sound (.items (trim s.toList) true) (dropPoint (trim s.toList))).2
    rw [read_eq_items]
    cases hx : (Part.items (trim s.toList) true).read (dropPoint (trim s.toList)) with
    | ok x => exact .inl ⟨_, rfl⟩
    | error e =>
      rcases hsound e hx with ⟨f, rfl⟩ | ⟨rfl, hbad⟩
      · exact .inr (.inl ⟨f, rfl⟩)
      · exact .inr (.inr ⟨rfl, hbad.of_suffix (dropPoint_suffix _)⟩)

/-- The parentheses, the negations and the string take many calls inside each other, and the text
from the bracket on is left over; the pattern of the second text is a parenthesis alone. -/
theorem read_progresses_nested :
    (∃ p, Part.disjunction.read "!(a>=x & \"b\\\"\")| !c] ..e".toList = .ok (p, "] ..e".toList) ∧
      Part.disjunction.isLoop = false ∧ "] ..e".toList ≠ "!(a>=x & \"b\\\"\")| !c] ..e".toList) ∧
    read " .a[ b ~= \"(\" ]" = .error .pattern ∧
      BadPattern (trim " .a[ b ~= \"(\" ]".toList) := by
  have hends : ∀ n, 6 * "!(a>=x & \"b\\\"\")| !c] ..e".toList.length + 4 < n →
      Part.unrolled (fun _ _ => .error .notJson) n .disjunction _ = Part.disjunction.read _ :=
    read_progresses.2.2.1 _ .disjunction _
  obtain ⟨p, hread⟩ : ∃ p, Part.disjunction.read "!(a>=x & \"b\\\"\")| !c] ..e".toList =
      .ok (p, "] ..e".toList) := ⟨_, (hends 170 (by decide)).symm.trans rfl⟩
  have hbad : read " .a[ b ~= \"(\" ]" = .error .pattern := by
    have hunit : (read " .a[ b ~= \"(\" ]").map (fun _ => ()) = .error .pattern := by
      rw [read_progresses.2.2.2.1 (fun _ _ => .error .notJson) _ 100 (by decide +kernel)]
      decide +kernel
    cases hread : read " .a[ b ~= \"(\" ]" with
    | ok q =>
      rw [hread] at hunit
      cases hunit
    | error e =>
      rw [hread] at hunit
      exact congrArg _ (Except.error.inj hunit)
  refine ⟨⟨p, hread, rfl, (read_progresses.1 .disjunction _ p _ hread).2 rfl⟩, hbad, ?_⟩
  rcases read_progresses.2.2.2.2 " .a[ b ~= \"(\" ]" with ⟨q, hq⟩ | ⟨f, hf⟩ | ⟨-, h⟩
  · rw [hbad] at hq
    cases hq
  · rw [hbad] at hf
    cases hf
  · exact h

end Query

end PathQuery
