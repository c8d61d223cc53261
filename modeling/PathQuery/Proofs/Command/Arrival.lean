import PathQuery.Host.Tree
import PathQuery.Proofs.Command.Stages
import PathQuery.Proofs.Host.FileName
import PathQuery.Proofs.Query.AcceptedTexts

/-! # How a document arrives

The same bytes can reach a command in a file or as the standard input, and that they are TOML
can be said by the name of the file or by an option (`Arrives`).  A command answers the same
whichever way they take (`Request.answer_of_arrival`).

Two runs are followed side by side.  They agree on all but one event: that a document file was
read is logged on some of the ways only (`Progress.Agree`).  Actions that keep two runs in
agreement do so in a row (`Action.Alike`), and every stage of a command does. -/
namespace PathQuery

/-! ### Runs side by side -/

/-- The events but those of a document file that was read. -/
def Log.besidesReading (es : List Log.Event) : List Log.Event :=
  es.filter (· ≠ Log.documentRead)

/-- Two commands have come equally far, but for the events of files that were read. -/
structure Progress.Agree (p q : Progress) : Prop where
  filter : p.filter = q.filter
  events : Log.besidesReading p.events = Log.besidesReading q.events
  printed : p.printed = q.printed

theorem Progress.Agree.refl (p : Progress) : p.Agree p := ⟨rfl, rfl, rfl⟩

namespace Action

variable {α β : Type}

/-- From progress that agrees, both actions come to the same result and to progress that
agrees. -/
def Alike (a b : Action Id α) : Prop :=
  ∀ p q, p.Agree q → ∃ x p' q', a p = (x, p') ∧ b q = (x, q') ∧ p'.Agree q'

theorem Alike.bind {a b : Action Id α} {f g : α → Action Id β} (ha : Alike a b)
    (hf : ∀ v, Alike (f v) (g v)) : Alike (a >>= f) (b >>= g) := by
  intro p q hpq
  obtain ⟨x, p', q', hp', hq', hpq'⟩ := ha p q hpq
  cases x with
  | ok v =>
    obtain ⟨y, p'', q'', hp'', hq'', hpq''⟩ := hf v p' q' hpq'
    exact ⟨y, p'', q'', (bind_of_ok hp').trans hp'', (bind_of_ok hq').trans hq'', hpq''⟩
  | error e => exact ⟨.error e, p', q', bind_of_error hp', bind_of_error hq', hpq'⟩

/-- Actions that only make progress are alike if what they make of it agrees. -/
theorem alike_of_forall {a b : Action Id α} {x : Except Error α} {f g : Progress → Progress}
    (ha : ∀ p, a p = (x, f p)) (hb : ∀ p, b p = (x, g p))
    (hfg : ∀ p q, p.Agree q → (f p).Agree (g q)) : Alike a b :=
  fun p q hpq => ⟨x, f p, g q, ha p, hb q, hfg p q hpq⟩

theorem alike_pure (v : α) : Alike (pure v) (pure v) :=
  alike_of_forall (fun _ => rfl) (fun _ => rfl) fun _ _ hpq => hpq

theorem alike_ofExcept (x : Except Error α) : Alike (ofExcept x) (ofExcept x) :=
  alike_of_forall (fun _ => rfl) (fun _ => rfl) fun _ _ hpq => hpq

theorem alike_setFilter (f : Log.Filter) : Alike (setFilter f) (setFilter f) :=
  alike_of_forall (fun _ => rfl) (fun _ => rfl) fun _ _ hpq => ⟨rfl, hpq.events, hpq.printed⟩

theorem alike_print (s : List Char) : Alike (print s) (print s) :=
  alike_of_forall (fun _ => rfl) (fun _ => rfl) fun _ _ hpq =>
    ⟨hpq.filter, hpq.events, congrArg (· ++ s) hpq.printed⟩

/-- The filter in force has no part in which events are left out. -/
theorem besidesReading_log (es fs : List Log.Event) (f : Log.Filter) :
    Log.besidesReading (es ++ fs.filter f.passes) =
      Log.besidesReading es ++ (Log.besidesReading fs).filter f.passes := by
  simp only [Log.besidesReading, List.filter_append, List.filter_filter, Bool.and_comm]

theorem alike_log_log {es fs : List Log.Event}
    (h : Log.besidesReading es = Log.besidesReading fs) : Alike (log es) (log fs) := by
  refine alike_of_forall (fun _ => rfl) (fun _ => rfl) fun p q hpq => ⟨hpq.filter, ?_, hpq.printed⟩
  rw [besidesReading_log, besidesReading_log, hpq.filter, hpq.events, h]

theorem alike_log (es : List Log.Event) : Alike (log es) (log es) := alike_log_log rfl

theorem ask_bind (x : Id α) (f : α → Action Id β) : ask x >>= f = f x := by
  funext p
  exact bind_of_ok rfl

theorem ofExcept_ok_bind (v : α) (f : α → Action Id β) : ofExcept (.ok v) >>= f = f v := by
  funext p
  exact bind_of_ok rfl

theorem ofExcept_error_bind (e : Error) (f : α → Action Id β) :
    ofExcept (.error e) >>= f = ofExcept (.error e) := by
  funext p
  exact bind_of_error rfl

theorem log_nil_bind (a : Action Id α) : (do log []; a) = a := by
  funext p
  refine (bind_of_ok rfl).trans ?_
  simp

end Action

open PathQuery.Action

/-! ### The ways of a document -/

/-- The bytes `b` are on the host where a source leads, and are to be decoded as `e` says.  The
standard input is where no file or a dash is given; a file is JSON unless its name or the
option says TOML, and the standard input unless the option does. -/
inductive Arrives (host : Host Id) (b : ByteArray) : Encoding → Source → Prop
  | file {path : String} {n : List Char} (hpath : Path.LeadsTo path n) (hdash : path ≠ "-")
      (hname : ¬ Path.IsTomlName n) (hb : host.file path = .bytes b) :
      Arrives host b .json ⟨some path, false⟩
  | input (hb : host.input = .bytes b) : Arrives host b .json ⟨none, false⟩
  | dash (hb : host.input = .bytes b) : Arrives host b .json ⟨some "-", false⟩
  | tomlFile {path : String} {n : List Char} (hpath : Path.LeadsTo path n)
      (hname : Path.IsTomlName n) (hb : host.file path = .bytes b) :
      Arrives host b .toml ⟨some path, false⟩
  | fileAsToml {path : String} {n : List Char} (hpath : Path.LeadsTo path n) (hdash : path ≠ "-")
      (hb : host.file path = .bytes b) : Arrives host b .toml ⟨some path, true⟩
  | inputAsToml (hb : host.input = .bytes b) : Arrives host b .toml ⟨none, true⟩
  | dashAsToml (hb : host.input = .bytes b) : Arrives host b .toml ⟨some "-", true⟩

/-- Decodes bytes, and logs events when they are found to be a text. -/
def Command.decode (b : ByteArray) (e : Encoding) (es : List Log.Event) : Action Id Document := do
  let text ← .ofExcept (Found.bytes b).text
  .log es
  .ofExcept (Document.ofText e text)

theorem Source.path?_of_leadsTo {p : String} {n : List Char} (h : Path.LeadsTo p n)
    (hdash : p ≠ "-") (toml : Bool) : Source.path? ⟨some p, toml⟩ = some p := by
  have hp : Path.isDash p = false :=
    Bool.eq_false_iff.mpr fun he => hdash ((Path.isDash_iff h).mp he)
  simp [Source.path?, Option.filter, hp]

theorem Path.ne_dash_of_isTomlName {p : String} {n : List Char} (h : Path.LeadsTo p n)
    (hn : Path.IsTomlName n) : p ≠ "-" := by
  rintro rfl
  have htoml := (Path.isToml_iff h).mpr hn
  exact absurd htoml (by decide)

namespace Arrives

variable {host : Host Id} {b : ByteArray} {e : Encoding} {s : Source}

/-- A command looks for the bytes in the place where they are, and decodes them as it should. -/
theorem place (h : Arrives host b e s) :
    (∃ path, s.path? = some path ∧ host.file path = .bytes b ∧ Command.encoding s path = e) ∨
      (s.path? = none ∧ host.input = .bytes b ∧ (if s.toml then .toml else .json) = e) := by
  cases h with
  | @file path n hpath hdash hname hb =>
    have htoml : Path.isToml path = false :=
      Bool.eq_false_iff.mpr fun he => hname ((Path.isToml_iff hpath).mp he)
    refine .inl ⟨path, Source.path?_of_leadsTo hpath hdash false, hb, ?_⟩
    simp [Command.encoding, Document.encodingOf, htoml]
  | input hb => exact .inr ⟨rfl, hb, rfl⟩
  | dash hb => exact .inr ⟨by decide, hb, rfl⟩
  | @tomlFile path n hpath hname hb =>
    have hdash := Path.ne_dash_of_isTomlName hpath hname
    refine .inl ⟨path, Source.path?_of_leadsTo hpath hdash false, hb, ?_⟩
    simp [Command.encoding, Document.encodingOf, (Path.isToml_iff hpath).mpr hname]
  | @fileAsToml path n hpath hdash hb =>
    exact .inl ⟨path, Source.path?_of_leadsTo hpath hdash true, hb, rfl⟩
  | inputAsToml hb => exact .inr ⟨rfl, hb, rfl⟩
  | dashAsToml hb => exact .inr ⟨by decide, hb, rfl⟩

theorem document_eq (h : Arrives host b e s) :
    s.document host = (Found.bytes b).text >>= Document.ofText e := by
  unfold Source.document
  rcases h.place with ⟨path, hpath, hb, he⟩ | ⟨hpath, hb, he⟩
  · simp only [hpath, hb, he]
  · simp only [hpath, hb, he]

/-- To read the document is to decode the bytes, and perhaps to log that a file was read. -/
theorem readDocument_eq (h : Arrives host b e s) :
    ∃ es, Log.besidesReading es = [] ∧ Command.readDocument host s = Command.decode b e es := by
  unfold Command.readDocument Command.decode
  rcases h.place with ⟨path, hpath, hb, he⟩ | ⟨hpath, hb, he⟩
  · unfold Source.path? at hpath
    cases htoml : s.toml with
    | false =>
      refine ⟨[Log.documentRead], by decide, ?_⟩
      simp only [hpath, hb, he]
      rfl
    | true =>
      refine ⟨[], rfl, ?_⟩
      simp only [hpath, hb, he, log_nil_bind]
      rfl
  · unfold Source.path? at hpath
    refine ⟨[], rfl, ?_⟩
    simp only [hpath, hb, he, log_nil_bind]
    rfl

end Arrives

/-! ### Commands -/

/-- Two hosts have the same settings. -/
structure Host.SameSettings (h k : Host Id) : Prop where
  environment : h.environment = k.environment
  home : h.home = k.home
  file : ∀ d, Settings.directory h = .ok d → h.file (Settings.path d) = k.file (Settings.path d)

namespace Command

/-- The command with its document from another source. -/
def withSource (s : Source) : Command → Command
  | query expression _ format skip => query expression s format skip
  | names expression _ => names expression s
  | c => c

variable {h k : Host Id} {b : ByteArray} {e : Encoding} {s t : Source}

theorem alike_adoptFilter (given : Option Log.Filter) (settings : Settings) :
    Alike (adoptFilter given settings) (adoptFilter given settings) := by
  unfold adoptFilter
  split
  · exact alike_pure ()
  · split
    · exact alike_setFilter _
    · exact alike_log _

theorem alike_loadSettings (hk : h.SameSettings k) (given : Option Log.Filter) :
    Alike (loadSettings h given) (loadSettings k given) := by
  have hdirectory : Settings.directory h = Settings.directory k := by
    simp only [Settings.directory, Settings.homeDirectory, hk.environment, hk.home]
  simp only [loadSettings, ask_bind]
  rw [← hdirectory]
  -- only once the directory is known do the hosts answer alike about the file in it
  cases hd : (Settings.directory h : Except Error String) with
  | error e =>
    rw [ofExcept_error_bind, ofExcept_error_bind]
    exact alike_ofExcept _
  | ok d =>
    simp only [ofExcept_ok_bind, hk.file d hd]
    refine (alike_ofExcept _).bind fun settings => (alike_log _).bind fun _ => ?_
    refine (alike_adoptFilter given settings).bind fun _ => ?_
    exact (alike_log _).bind fun _ => alike_pure _

theorem alike_readDocument (hs : Arrives h b e s) (ht : Arrives k b e t) :
    Alike (readDocument h s) (readDocument k t) := by
  obtain ⟨es, hes, hread⟩ := hs.readDocument_eq
  obtain ⟨fs, hfs, hread'⟩ := ht.readDocument_eq
  -- one of the two may log that a file was read, which agreement leaves out
  rw [hread, hread']
  refine (alike_ofExcept _).bind fun text => ?_
  exact (alike_log_log (hes.trans hfs.symm)).bind fun _ => alike_ofExcept _

theorem alike_evaluate (q : Query) (d : Document) : Alike (evaluate q d) (evaluate q d) :=
  (alike_log _).bind fun _ => alike_ofExcept _

theorem alike_printMatches (format : Format) (policy : Composites) (c : Collection) :
    Alike (printMatches format policy c) (printMatches format policy c) := by
  cases format with
  | json => exact alike_print _
  | values => exact (alike_log _).bind fun _ => (alike_ofExcept _).bind fun _ => alike_print _
  | count => exact alike_print _

theorem alike_perform (hk : h.SameSettings k) (hs : Arrives h b e s) (ht : Arrives k b e t)
    (given : Option Log.Filter) (c : Command) :
    Alike ((c.withSource s).perform h given) ((c.withSource t).perform k given) := by
  cases c with
  | query expression source format skip =>
    refine (alike_loadSettings hk given).bind fun (_, settings) => ?_
    refine (alike_ofExcept _).bind fun f => (alike_ofExcept _).bind fun q => ?_
    refine (alike_readDocument hs ht).bind fun d => (alike_evaluate q d).bind fun c => ?_
    exact (alike_log _).bind fun _ => alike_printMatches f (policyOf settings skip) c
  | names expression source =>
    refine (alike_loadSettings hk given).bind fun _ => (alike_ofExcept _).bind fun q => ?_
    exact (alike_readDocument hs ht).bind fun d => (alike_evaluate q d).bind fun c => alike_print _
  | parse expression => exact (alike_ofExcept _).bind fun q => alike_print _
  | showSettings =>
    refine (alike_loadSettings hk given).bind fun (_, _) => ?_
    exact (alike_print _).bind fun _ => alike_print _

theorem run_alike (hk : h.SameSettings k) (hs : Arrives h b e s) (ht : Arrives k b e t)
    (c : Command) :
    let r : Report := (c.withSource s).run h
    let r' : Report := (c.withSource t).run k
    r.output = r'.output ∧ r.failure = r'.failure ∧
      Log.besidesReading r.events = Log.besidesReading r'.events := by
  have hgiven : givenFilter h = givenFilter k := by rw [givenFilter, givenFilter, hk.environment]
  obtain ⟨x, p, q, hp, hq, hpq⟩ := alike_perform hk hs ht (givenFilter k) c
    { filter := (givenFilter k).getD .warnings } _ (.refl _)
  simp only [run_eq, hgiven, hp, hq]
  exact ⟨congrArg String.ofList hpq.printed, rfl, hpq.events⟩

/-- Bytes that are not UTF-8 fail at the stage of the document. -/
theorem failure?_document (hs : Arrives h b e s) (hb : String.fromUTF8? b = none) {c : Command}
    (hc : .document ∈ c.stages) :
    (c.withSource s).failure? h .document = some .unreadable := by
  have hdocument : failureOf (s.document h) = some .unreadable := by
    rw [hs.document_eq]
    simp only [Found.text, hb, failureOf_error_bind]
  cases c with
  | query expression source format skip => exact hdocument
  | names expression source => exact hdocument
  | parse expression => simp [stages] at hc
  | showSettings => simp [stages] at hc

theorem stages_withSource (s : Source) (c : Command) : (c.withSource s).stages = c.stages := by
  cases c <;> rfl

/-- A stage that fails ends the command if no stage before it fails. -/
theorem findSome?_of_takeWhile {st : Stage} {sts : List Stage} {f : Stage → Option Error}
    {x : Error} (hst : st ∈ sts) (hbefore : ∀ st' ∈ sts.takeWhile (· ≠ st), f st' = none)
    (hx : f st = some x) : sts.findSome? f = some x := by
  induction sts with
  | nil => cases hst
  | cons st' sts ih =>
    by_cases he : st' = st
    · rw [he, List.findSome?_cons, hx]
    · rw [List.takeWhile_cons_of_pos (by simpa using he)] at hbefore
      rw [List.findSome?_cons, hbefore st' List.mem_cons_self]
      exact ih ((List.mem_cons.mp hst).resolve_left (Ne.symm he)) fun st'' hst'' =>
        hbefore st'' (List.mem_cons_of_mem _ hst'')

end Command

/-- Which way the bytes of a document take makes no difference to a command on hosts with the
same settings: it ends with the same code, output and failure, and has logged the same but for
the files that were read.  Bytes that are not UTF-8 are unreadable on every way; the command
ends with that failure if no stage before the document fails. -/
theorem Request.answer_of_arrival {h k : Host Id} {b : ByteArray} {e : Encoding} {s t : Source}
    (hk : h.SameSettings k) (hs : Arrives h b e s) (ht : Arrives k b e t) (c : Command) :
    let o : Outcome := (Request.run (c.withSource s)).answer h
    let o' : Outcome := (Request.run (c.withSource t)).answer k
    (o.code = o'.code ∧ o.output = o'.output ∧ o.failure = o'.failure ∧
      Log.besidesReading o.events = Log.besidesReading o'.events) ∧
    (String.fromUTF8? b = none → .document ∈ c.stages →
      (∀ st ∈ c.stages.takeWhile (· ≠ .document), (c.withSource s).failure? h st = none) →
      o.code = 1 ∧ o.failure = some .unreadable) := by
  intro o o'
  have hcode : o.code = if o.failure.isSome then 1 else 0 := rfl
  have hcode' : o'.code = if o'.failure.isSome then 1 else 0 := rfl
  obtain ⟨houtput, hfailure, hevents⟩ : o.output = o'.output ∧ o.failure = o'.failure ∧
      Log.besidesReading o.events = Log.besidesReading o'.events := Command.run_alike hk hs ht c
  refine ⟨⟨?_, houtput, hfailure, hevents⟩, fun hb hc hbefore => ?_⟩
  · rw [hcode, hcode', hfailure]
  · have hunreadable : o.failure = some .unreadable := by
      refine ((c.withSource s).run_output h).2.trans ?_
      rw [Command.failureOf_output, Command.stages_withSource]
      exact Command.findSome?_of_takeWhile hc hbefore (Command.failure?_document hs hb hc)
    refine ⟨?_, hunreadable⟩
    rw [hcode, hunreadable]
    rfl

/-- Bytes that are not UTF-8, in a file whose name says TOML and as the standard input. -/
theorem Request.answer_of_arrival_unreadable :
    let b : ByteArray := ⟨#[255]⟩
    let h := FileTree.host ⟨[], [([['d'], "x.Toml".toList], b)]⟩ [("PARSR_ROOT", "/s")] .empty
    let k := FileTree.host ⟨[], []⟩ [("PARSR_ROOT", "/s")] b
    let s : Source := { file := some "/d/x.Toml" }
    let t : Source := { toml := true }
    (h.SameSettings k ∧ Arrives h b .toml s ∧ Arrives k b .toml t ∧
      String.fromUTF8? b = none) ∧
    ((Request.run (.names "" s)).answer h : Outcome).failure = some .unreadable ∧
    ((Request.run (.names "" t)).answer k : Outcome).failure = some .unreadable := by
  intro b h k s t
  have hk : h.SameSettings k := by
    refine ⟨rfl, rfl, fun d hd => ?_⟩
    cases hd
    rfl
  have hname : Path.IsTomlName "x.Toml".toList := ⟨['x'], "Toml".toList, by decide, rfl, by decide⟩
  have hs : Arrives h b .toml s := by
    refine .tomlFile (n := "x.Toml".toList) (.after (d := "/d".toList) (by decide) ?_) hname rfl
    exact ⟨by decide, by decide, by decide, by decide⟩
  have ht : Arrives k b .toml t := .inputAsToml rfl
  have hb : String.fromUTF8? b = none := by decide
  have hsettings : Settings.ofHost h = .ok ("/s", {}) := rfl
  have hquery : Query.read "" = .ok ⟨[]⟩ := Query.readTrimmed_eq_ok_iff.mpr (.inl ⟨.inl rfl, rfl⟩)
  have hbefore : ∀ st ∈ [Stage.settings, .expression],
      Command.failure? h (.names "" s) st = none := by
    intro st hst
    simp only [List.mem_cons, List.not_mem_nil, or_false] at hst
    rcases hst with rfl | rfl
    · exact congrArg failureOf hsettings
    · exact congrArg failureOf hquery
  obtain ⟨⟨-, -, hsame, -⟩, hfail⟩ := Request.answer_of_arrival hk hs ht (.names "" s)
  obtain ⟨-, hfailure⟩ := hfail hb (by decide) hbefore
  exact ⟨⟨hk, hs, ht, hb⟩, hfailure, hsame.symm.trans hfailure⟩

end PathQuery
