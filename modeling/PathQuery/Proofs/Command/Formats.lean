import PathQuery.Host.Tree
import PathQuery.Proofs.Collection.Projection
import PathQuery.Proofs.Command.Output
import PathQuery.Proofs.Json.IndentedText
import PathQuery.Proofs.Query.Outcome
import PathQuery.Proofs.Settings.SavedText

/-! # The formats of a query's matches

What an expression matches depends on the settings, the expression and the document alone
(`Command.matched`); the format comes in after that (`Command.output_of_format`).  So whatever is
printed in one format can be told from the array that is printed in another
(`Request.answer_formats`): its length, its scalars one to a line, or the first of its values that
cannot be printed so. -/
namespace PathQuery

namespace Outcome

/-- The program has printed a text and come to its end. -/
structure Succeeds (o : Outcome) (s : String) : Prop where
  code : o.code = 0
  output : o.output = s
  failure : o.failure = none

/-- The program has ended early and printed nothing. -/
structure Fails (o : Outcome) (e : Error) : Prop where
  code : o.code = 1
  output : o.output = ""
  failure : o.failure = some e

end Outcome

namespace Command

/-- The settings on a host, and what an expression matches in a document. -/
def matched (host : Host Id) (expression : String) (source : Source) :
    Except Error (Settings × Collection) := do
  let (_, settings) ← Settings.ofHost host
  let q ← Query.read expression
  let d ← source.document host
  let c ← q.eval d.root
  return (settings, c)

theorem formatOf_name (settings : Settings) (f : Format) :
    formatOf settings (some f.name) = .ok f := by
  simp [formatOf, Format.ofName?_name]

/-- The format comes in after all else. -/
theorem output_of_format (host : Host Id) (expression : String) (source : Source) (f : Format)
    (skip : Bool) :
    (query expression source (some f.name) skip).output host =
      matched host expression source >>= fun m => matchesText f (policyOf m.1 skip) m.2 := by
  simp only [output, matched, formatOf_name, bind_assoc, pure_bind]
  rfl

/-- There are matches just if every stage before the format succeeds. -/
theorem matched_eq_ok {host : Host Id} {expression : String} {source : Source}
    {settings : Settings} {c : Collection} :
    matched host expression source = .ok (settings, c) ↔
    ∃ directory q d, Settings.ofHost host = .ok (directory, settings) ∧
      Query.read expression = .ok q ∧ source.document host = .ok d ∧ q.eval d.root = .ok c := by
  constructor
  · intro h
    obtain ⟨⟨directory, settings'⟩, hsettings, h⟩ := Query.Reader.bind_eq_ok.mp h
    obtain ⟨q, hq, h⟩ := Query.Reader.bind_eq_ok.mp h
    obtain ⟨d, hd, h⟩ := Query.Reader.bind_eq_ok.mp h
    obtain ⟨c', hc, h⟩ := Query.Reader.bind_eq_ok.mp h
    cases h
    exact ⟨directory, q, d, hsettings, hq, hd, hc⟩
  · rintro ⟨directory, q, d, hsettings, hq, hd, hc⟩
    refine Query.Reader.bind_eq_ok.mpr ⟨_, hsettings, ?_⟩
    refine Query.Reader.bind_eq_ok.mpr ⟨q, hq, Query.Reader.bind_eq_ok.mpr ⟨d, hd, ?_⟩⟩
    exact Query.Reader.bind_eq_ok.mpr ⟨c, hc, rfl⟩

/-- Whatever the stages before the format come to, the settings and the matches are the same. -/
theorem matched_unique {host : Host Id} {expression : String} {source : Source}
    {settings settings' : Settings} {c c' : Collection}
    (h : matched host expression source = .ok (settings, c))
    (h' : matched host expression source = .ok (settings', c')) : settings' = settings ∧ c' = c :=
  Prod.mk.inj (Except.ok.inj (h'.symm.trans h))

/-! ### How commands end -/

variable {host : Host Id}

theorem succeeds_of_output {c : Command} {s : List Char} (h : c.output host = .ok s) :
    Outcome.Succeeds ((Request.run c).answer host) (String.ofList s) := by
  obtain ⟨hprinted, hfailure⟩ := c.run_output host
  rw [h] at hprinted hfailure
  refine ⟨?_, hprinted, hfailure⟩
  show (if (c.run host).failure.isSome then 1 else 0) = 0
  rw [hfailure]
  rfl

theorem fails_of_output {c : Command} {e : Error} (h : c.output host = .error e) :
    Outcome.Fails ((Request.run c).answer host) e := by
  obtain ⟨hprinted, hfailure⟩ := c.run_output host
  rw [h] at hprinted hfailure
  refine ⟨?_, hprinted, hfailure⟩
  show (if (c.run host).failure.isSome then 1 else 0) = 1
  rw [hfailure]
  rfl

theorem exists_output_of_code {c : Command}
    (h : Outcome.code ((Request.run c).answer host) = 0) : ∃ s, c.output host = .ok s := by
  cases hout : c.output host with
  | ok s => exact ⟨s, rfl⟩
  | error e =>
    rw [(fails_of_output hout).code] at h
    cases h

/-- A format that is not given is that of the settings, in all that the program leaves behind. -/
theorem answer_format_none {directory : String} {settings : Settings}
    (h : Settings.ofHost host = .ok (directory, settings)) (expression : String) (source : Source)
    (skip : Bool) :
    ((Request.run (.query expression source none skip)).answer host : Outcome) =
      (Request.run (.query expression source (some settings.outputFormat) skip)).answer host := by
  have hperform : ∀ p, perform host (givenFilter host) (.query expression source none skip) p =
      perform host (givenFilter host)
        (.query expression source (some settings.outputFormat) skip) p := by
    intro p
    obtain ⟨p', hp', -⟩ := quiet_loadSettings host (givenFilter host) p
    rw [h] at hp'
    have hnone : perform host (givenFilter host) (.query expression source none skip) p = _ :=
      Action.bind_of_ok hp'
    have hsome : perform host (givenFilter host)
        (.query expression source (some settings.outputFormat) skip) p = _ :=
      Action.bind_of_ok hp'
    exact hnone.trans hsome.symm
  show Outcome.ofReport (run host _) = Outcome.ofReport (run host _)
  rw [run_eq, run_eq, hperform]

/-! ### What each format prints -/

/-- The scalars among values, each on a line. -/
def scalarLines (vs : List Json) : List Char := (vs.filter Json.isScalar).flatMap scalarLine

section Matched

variable {c : Collection}

theorem matchesText_values_skip : matchesText .values .skip c =
    .ok (scalarLines (c.entries.map Entry.value)) := by
  have hscalars : c.scalars .skip = .ok ((c.entries.map Entry.value).filter Json.isScalar) :=
    Collection.scalarsOf_skip c.entries
  rw [matchesText, hscalars]
  rfl

theorem matchesText_values_of_scalars
    (h : ∀ v ∈ c.entries.map Entry.value, v.isScalar = true) (policy : Composites) :
    matchesText .values policy c = .ok (scalarLines (c.entries.map Entry.value)) := by
  have hscalars : c.scalars policy = .ok (c.entries.map Entry.value) :=
    Collection.scalarsOf_of_scalars (List.forall_mem_map.mp h) policy
  rw [matchesText, hscalars, scalarLines, List.filter_eq_self.mpr h]
  rfl

theorem exists_composite_of_not_scalars
    (h : ¬(∀ v ∈ c.entries.map Entry.value, v.isScalar = true)) :
    ∃ before e after, c.entries = before ++ e :: after ∧
      (∀ f ∈ before, f.isScalar = true) ∧ e.isScalar = false ∧
      matchesText .values .refuse c = .error (.notScalar e.text e.kind) := by
  obtain ⟨before, e, after, hentries, hbefore, he⟩ :=
    (Collection.scalars_or_exists_first c.entries).resolve_left fun hall =>
      h (List.forall_mem_map.mpr hall)
  refine ⟨before, e, after, hentries, hbefore, he, ?_⟩
  have hscalars : c.scalars .refuse = .error (.notScalar e.text e.kind) := by
    rw [Collection.scalars, hentries]
    exact Collection.scalarsOf_refuse_append hbefore he after
  rw [matchesText, hscalars]
  rfl

variable {expression : String} {source : Source} {settings : Settings} {f : Format} {skip : Bool}

theorem succeeds_of_matched (h : matched host expression source = .ok (settings, c))
    {s : List Char} (hs : matchesText f (policyOf settings skip) c = .ok s) :
    Outcome.Succeeds ((Request.run (.query expression source (some f.name) skip)).answer host)
      (String.ofList s) := by
  refine succeeds_of_output ?_
  rw [output_of_format, h]
  exact hs

theorem fails_of_matched (h : matched host expression source = .ok (settings, c)) {e : Error}
    (he : matchesText f (policyOf settings skip) c = .error e) :
    Outcome.Fails ((Request.run (.query expression source (some f.name) skip)).answer host) e := by
  refine fails_of_output ?_
  rw [output_of_format, h]
  exact he

end Matched

end Command

open Command

/-- Where an expression has matches that are printed as JSON, the other formats say the same of
them.  What is printed as JSON is read as the array of the values in order; the count is its
length; and the lines are those of its scalars if composites are skipped, be it by the command or
by the settings, or if there are none.  Else the first composite is named and nothing printed.  A
format that is left out is that of the settings. -/
theorem Request.answer_formats (host : Host Id) (expression : String) (source : Source) :
    let answer (format : Option String) (skip : Bool) : Outcome :=
      (Request.run (.query expression source format skip)).answer host
    ∀ skip, (answer (some "json") skip).code = 0 →
      ∃ directory settings q d c, Settings.ofHost host = .ok (directory, settings) ∧
        Query.read expression = .ok q ∧ source.document host = .ok d ∧ q.eval d.root = .ok c ∧
        let values := c.entries.map Entry.value
        let lines := String.ofList (scalarLines values)
        (∀ room, (Json.array values).depth ≤ room →
          Json.readWithin? room (answer (some "json") skip).output.toList =
            some (.array values)) ∧
        (answer (some "count") skip).Succeeds (toString values.length ++ "\n") ∧
        (answer (some "values") true).Succeeds lines ∧
        (settings.composites = .skip → (answer (some "values") false).Succeeds lines) ∧
        ((∀ v ∈ values, v.isScalar = true) → (answer (some "values") false).Succeeds lines) ∧
        (settings.composites = .refuse → ¬(∀ v ∈ values, v.isScalar = true) →
          ∃ before e after, c.entries = before ++ e :: after ∧
            (∀ f ∈ before, f.isScalar = true) ∧ e.isScalar = false ∧
            (answer (some "values") false).Fails (.notScalar e.text e.kind)) ∧
        ∀ skip, answer none skip = answer (some settings.outputFormat) skip := by
  intro answer skip hcode
  obtain ⟨s, hs⟩ := exists_output_of_code hcode
  rw [show "json" = Format.json.name from rfl, output_of_format] at hs
  obtain ⟨⟨settings, c⟩, hmatched, -⟩ := Query.Reader.bind_eq_ok.mp hs
  obtain ⟨directory, q, d, hsettings, hq, hd, hc⟩ := matched_eq_ok.mp hmatched
  refine ⟨directory, settings, q, d, c, hsettings, hq, hd, hc, ?_, ?_, ?_, ?_, ?_, ?_, ?_⟩
  · intro room hroom
    have hjson : (answer (some "json") skip).output = _ :=
      (succeeds_of_matched (f := .json) hmatched rfl).output
    rw [hjson, String.toList_ofList]
    exact Json.readWithin?_indentedChars _ hroom
  · have htext : String.ofList (Nat.toDigits 10 c.entries.length ++ ['\n']) =
        toString (c.entries.map Entry.value).length ++ "\n" := by
      rw [String.ofList_append, List.length_map]
      rfl
    exact htext ▸ succeeds_of_matched (f := .count) hmatched rfl
  · exact succeeds_of_matched (f := .values) hmatched matchesText_values_skip
  · intro hskip
    refine succeeds_of_matched (f := .values) hmatched ?_
    rw [policyOf, if_neg Bool.false_ne_true, hskip]
    exact matchesText_values_skip
  · intro hscalars
    exact succeeds_of_matched (f := .values) hmatched (matchesText_values_of_scalars hscalars _)
  · intro hrefuse hnot
    obtain ⟨before, e, after, hsplit, hbefore, he, htext⟩ := exists_composite_of_not_scalars hnot
    refine ⟨before, e, after, hsplit, hbefore, he, fails_of_matched (f := .values) hmatched ?_⟩
    rw [policyOf, if_neg Bool.false_ne_true, hrefuse]
    exact htext
  · exact answer_format_none hsettings expression source

/-- A host with a settings file, and with a document as its standard input. -/
def Host.fed (settings document : String) : Host Id :=
  FileTree.host ⟨[], [([['s'], "config.toml".toList], settings.toUTF8)]⟩ [("PARSR_ROOT", "/s")]
    document.toUTF8

theorem Host.ofHost_fed {settings : String} {s : Settings} (h : Settings.read settings = .ok s)
    (document : String) : Settings.ofHost (.fed settings document) = .ok ("/s", s) := by
  have hload : Settings.load (.bytes settings.toUTF8) = .ok s := by
    rw [Settings.load.eq_def]
    simp only [Found.text_toUTF8, h]
  show (do let s ← Settings.load (.bytes settings.toUTF8); return ("/s", s)) = .ok ("/s", s)
  rw [hload]
  rfl

theorem Host.document_fed {document : String} {v : Json} (h : Json.read? document = some v)
    (settings : String) : Source.document (.fed settings document) {} = .ok (.ofJson v) := by
  show (Found.bytes document.toUTF8).text >>= Document.ofJsonText = .ok (.ofJson v)
  rw [Found.text_toUTF8]
  show Document.ofJsonText document = .ok (.ofJson v)
  rw [Document.ofJsonText, h]

/-- Matches with an array among them, under settings that refuse such values and under settings
that skip them, and matches without. -/
theorem Request.answer_formats_mixed :
    let document := "\x7b\"x\": [\"a\", 0, [null]], \"y\": [true]\x7d"
    let h := Host.fed "composite_values = \"error\"" document
    let k := Host.fed "composite_values = \"skip\"\noutput_format = \"count\"" document
    let answer (host : Host Id) (expression : String) (format : Option String) (skip : Bool) :
        Outcome := (Request.run (.query expression {} format skip)).answer host
    ((answer h "x" (some "json") true).code = 0 ∧
      Json.readWithin? 2 (answer h "x" (some "json") true).output.toList =
        some (.array [.string "a", .ofInt 0, .array [.null]]) ∧
      (answer h "x" (some "count") true).Succeeds "3\n" ∧
      (answer h "x" (some "values") true).Succeeds "a\n0\n" ∧
      (answer h "x" (some "values") false).Fails (.notScalar "x[2]" .array) ∧
      answer h "x" none true = answer h "x" (some "json") true) ∧
    ((answer k "x" (some "json") false).code = 0 ∧
      (answer k "x" (some "values") false).Succeeds "a\n0\n" ∧
      answer k "x" none false = answer k "x" (some "count") false) ∧
    (answer h "y" (some "json") false).code = 0 ∧
      (answer h "y" (some "values") false).Succeeds "true\n" := by
  intro document h k answer
  let v : Json := .object [("x", .array [.string "a", .ofInt 0, .array [.null]]),
    ("y", .array [.bool true])]
  have hv : Json.read? document = some v := by
    unfold document v
    set_option maxRecDepth 1000 in with_unfolding_all rfl
  have hx : Query.read "x" = .ok ⟨[.descend "x"]⟩ := by with_unfolding_all rfl
  have hy : Query.read "y" = .ok ⟨[.descend "y"]⟩ := by with_unfolding_all rfl
  have hh : Settings.ofHost h = .ok ("/s", {}) :=
    Host.ofHost_fed (Settings.read_unended [("composite_values", "error")] (by decide)
      (by decide) (by decide +kernel) rfl) document
  have hk : Settings.ofHost k = .ok ("/s", ⟨.skip, "count", "warn"⟩) :=
    Host.ofHost_fed (Settings.read_unended
      [("composite_values", "skip"), ("output_format", "count")] (by decide) (by decide)
      (by decide +kernel) rfl) document
  have hcx : Query.eval ⟨[.descend "x"]⟩ (Document.ofJson v).root =
      .ok ⟨"x", Entry.elements (.key "x") [.string "a", .ofInt 0, .array [.null]]⟩ := by rfl
  have hcy : Query.eval ⟨[.descend "y"]⟩ (Document.ofJson v).root =
      .ok ⟨"y", Entry.elements (.key "y") [.bool true]⟩ := by rfl
  have hmx := matched_eq_ok.mpr ⟨_, _, _, hh, hx, Host.document_fed hv _, hcx⟩
  have hmk := matched_eq_ok.mpr ⟨_, _, _, hk, hx, Host.document_fed hv _, hcx⟩
  have hmy := matched_eq_ok.mpr ⟨_, _, _, hh, hy, Host.document_fed hv _, hcy⟩
  have hcodex : (answer h "x" (some "json") true).code = 0 :=
    (succeeds_of_matched (f := .json) hmx rfl).code
  have hcodek : (answer k "x" (some "json") false).code = 0 :=
    (succeeds_of_matched (f := .json) hmk rfl).code
  have hcodey : (answer h "y" (some "json") false).code = 0 :=
    (succeeds_of_matched (f := .json) hmy rfl).code
  -- the settings and the collection that the theorem finds are those computed above
  refine ⟨?_, ?_, ?_⟩
  · obtain ⟨_, _, _, _, _, hs, hq, hd, hc, hjson, hcount, hskip, -, -, hrefuse, hnone⟩ :=
      Request.answer_formats h "x" {} true hcodex
    obtain ⟨rfl, rfl⟩ := matched_unique hmx (matched_eq_ok.mpr ⟨_, _, _, hs, hq, hd, hc⟩)
    obtain ⟨before, e, after, hsplit, hbefore, he, hfails⟩ := hrefuse rfl (by decide)
    have hfirst : (Entry.elements (.key "x") [.string "a", .ofInt 0, .array [.null]]).find?
        (!·.isScalar) = some e := by
      refine List.find?_eq_some_iff_append.mpr ⟨by simp [he], before, after, hsplit, ?_⟩
      exact fun f hf => by simp [hbefore f hf]
    cases hfirst
    have hthree : toString (3 : Nat) ++ "\n" = "3\n" := by rfl
    exact ⟨hcodex, hjson 2 (by decide), hthree ▸ hcount, hskip, hfails, hnone true⟩
  · obtain ⟨_, _, _, _, _, hs, hq, hd, hc, -, -, -, hskip, -, -, hnone⟩ :=
      Request.answer_formats k "x" {} false hcodek
    obtain ⟨rfl, rfl⟩ := matched_unique hmk (matched_eq_ok.mpr ⟨_, _, _, hs, hq, hd, hc⟩)
    exact ⟨hcodek, hskip rfl, hnone false⟩
  · obtain ⟨_, _, _, _, _, hs, hq, hd, hc, -, -, -, -, hscalars, -, -⟩ :=
      Request.answer_formats h "y" {} false hcodey
    obtain ⟨rfl, rfl⟩ := matched_unique hmy (matched_eq_ok.mpr ⟨_, _, _, hs, hq, hd, hc⟩)
    exact ⟨hcodey, hscalars (by decide)⟩

end PathQuery
