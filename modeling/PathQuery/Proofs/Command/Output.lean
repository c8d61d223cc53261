import PathQuery.Command.Start

/-! # The output of commands

What a command prints and how it ends, as a function of the host alone (`Command.output`): the
progress that it keeps track of on the way, the log filter and the events above all, has no
part in it (`Command.run_output`).

What an action comes to and prints is said by `Writes`, which two actions in a row have
together.  Every stage before the last is `Quiet`: it prints nothing.  So a command prints only
at its end, when nothing can fail any more: it is of the kind that `Prints` all of its text or
fails without any. -/
namespace PathQuery

variable {α β : Type}

@[simp] theorem failureOf_ok (a : α) : failureOf (.ok a) = none := rfl

@[simp] theorem failureOf_error (e : Error) : failureOf (.error e : Except Error α) = some e := rfl

@[simp] theorem failureOf_ok_bind (a : α) (f : α → Except Error β) :
    failureOf (.ok a >>= f) = failureOf (f a) := rfl

@[simp] theorem failureOf_error_bind (e : Error) (f : α → Except Error β) :
    failureOf (.error e >>= f) = some e := rfl

@[simp] theorem failureOf_map (f : α → β) (x : Except Error α) :
    failureOf (f <$> x) = failureOf x := by
  cases x <;> rfl

namespace Action

theorem bind_of_ok {a : Action Id α} {f : α → Action Id β} {p p' : Progress} {v : α}
    (h : a p = (.ok v, p')) : (a >>= f) p = f v p' := by
  simp only [bind, ExceptT.bind, ExceptT.mk, StateT.bind, h]
  rfl

theorem bind_of_error {a : Action Id α} {f : α → Action Id β} {p p' : Progress} {e : Error}
    (h : a p = (.error e, p')) : (a >>= f) p = (.error e, p') := by
  simp only [bind, ExceptT.bind, ExceptT.mk, StateT.bind, h]
  rfl

/-! ### What an action prints -/

/-- The action comes to the result `x` and prints `s`, however far the command has come. -/
def Writes (a : Action Id α) (x : Except Error α) (s : List Char) : Prop :=
  ∀ p, ∃ p', a p = (x, p') ∧ p'.printed = p.printed ++ s

theorem Writes.bind_ok {a : Action Id α} {v : α} {f : α → Action Id β} {y : Except Error β}
    {s t : List Char} (ha : Writes a (.ok v) s) (hf : Writes (f v) y t) :
    Writes (a >>= f) y (s ++ t) := by
  intro p
  obtain ⟨p', hp', hprinted⟩ := ha p
  obtain ⟨p'', hp'', hprinted'⟩ := hf p'
  exact ⟨p'', (bind_of_ok hp').trans hp'', by rw [hprinted', hprinted, List.append_assoc]⟩

theorem Writes.bind_error {a : Action Id α} {e : Error} {s : List Char} {f : α → Action Id β}
    (ha : Writes a (.error e) s) : Writes (a >>= f) (.error e) s := by
  intro p
  obtain ⟨p', hp', hprinted⟩ := ha p
  exact ⟨p', bind_of_error hp', hprinted⟩

theorem writes_print (s : List Char) : Writes (print s) (.ok ()) s := fun _ => ⟨_, rfl, rfl⟩

/-! ### Actions that print nothing -/

/-- The action comes to the result `x` and prints nothing. -/
def Quiet (a : Action Id α) (x : Except Error α) : Prop := Writes a x []

/-- An action that leaves alone what is printed is quiet. -/
theorem quiet_of_forall {a : Action Id α} {x : Except Error α} {f : Progress → Progress}
    (ha : ∀ p, a p = (x, f p)) (hf : ∀ p, (f p).printed = p.printed) : Quiet a x :=
  fun p => ⟨f p, ha p, (hf p).trans (List.append_nil _).symm⟩

theorem quiet_pure (v : α) : Quiet (pure v) (.ok v) :=
  quiet_of_forall (fun _ => rfl) fun _ => rfl

theorem quiet_ofExcept (x : Except Error α) : Quiet (ofExcept x) x :=
  quiet_of_forall (fun _ => rfl) fun _ => rfl

theorem quiet_ask (x : Id α) : Quiet (ask x) (.ok x) :=
  quiet_of_forall (fun _ => rfl) fun _ => rfl

theorem quiet_log (es : List Log.Event) : Quiet (log es) (.ok ()) :=
  quiet_of_forall (fun _ => rfl) fun _ => rfl

theorem quiet_setFilter (f : Log.Filter) : Quiet (setFilter f) (.ok ()) :=
  quiet_of_forall (fun _ => rfl) fun _ => rfl

theorem Quiet.bind_ok {a : Action Id α} {v : α} {f : α → Action Id β} {y : Except Error β}
    (ha : Quiet a (.ok v)) (hf : Quiet (f v) y) : Quiet (a >>= f) y :=
  Writes.bind_ok ha hf

theorem Quiet.bind {a : Action Id α} {x : Except Error α} {f : α → Action Id β}
    {g : α → Except Error β} (ha : Quiet a x) (hf : ∀ v, Quiet (f v) (g v)) :
    Quiet (a >>= f) (x >>= g) := by
  cases x with
  | ok v => exact ha.bind_ok (hf v)
  | error e => exact Writes.bind_error ha

/-! ### Actions that print at their end -/

/-- The action prints a text and succeeds, or prints nothing and fails; which of the two, and
the text or the error, is said by `x`. -/
def Prints (a : Action Id Unit) (x : Except Error (List Char)) : Prop :=
  Writes a (x.map fun _ => ()) (x.toOption.getD [])

theorem prints_print (s : List Char) : Prints (print s) (.ok s) := writes_print s

theorem prints_print_print (s t : List Char) : Prints (do print s; print t) (.ok (s ++ t)) :=
  (writes_print s).bind_ok (writes_print t)

theorem Quiet.bind_ok_prints {a : Action Id α} {v : α} {f : α → Action Id Unit}
    {y : Except Error (List Char)} (ha : Quiet a (.ok v)) (hf : Prints (f v) y) :
    Prints (a >>= f) y :=
  Writes.bind_ok ha hf

theorem Quiet.bind_prints {a : Action Id α} {x : Except Error α} {f : α → Action Id Unit}
    {g : α → Except Error (List Char)} (ha : Quiet a x) (hf : ∀ v, Prints (f v) (g v)) :
    Prints (a >>= f) (x >>= g) := by
  cases x with
  | ok v => exact ha.bind_ok_prints (hf v)
  | error e => exact Writes.bind_error ha

theorem Prints.unique {a : Action Id Unit} {x y : Except Error (List Char)} (hx : Prints a x)
    (hy : Prints a y) : x = y := by
  obtain ⟨p, hp, hprinted⟩ := hx { filter := [] }
  obtain ⟨q, hq, hprinted'⟩ := hy { filter := [] }
  obtain ⟨hend, rfl⟩ := Prod.mk.injEq .. ▸ hp.symm.trans hq
  have htext : x.toOption.getD [] = y.toOption.getD [] :=
    List.append_cancel_left (hprinted.symm.trans hprinted')
  cases x with
  | ok s =>
    cases y with
    | ok t => exact congrArg _ htext
    | error e => cases hend
  | error e =>
    cases y with
    | ok t => cases hend
    | error e' => cases hend; rfl

end Action

open PathQuery.Action

/-! ### Settings and documents -/

theorem Found.text_toUTF8 (s : String) : (Found.bytes s.toUTF8).text = .ok s := by
  have h : String.fromUTF8? s.toUTF8 = some s := dif_pos s.isValidUTF8
  simp only [text, h]

/-- The settings on a host, with their directory. -/
def Settings.ofHost (host : Host Id) : Except Error (String × Settings) := do
  let directory ← (Settings.directory host : Except Error String)
  let settings ← Settings.load (host.file (Settings.path directory))
  return (directory, settings)

namespace Source

/-- The file of a source; a dash stands for the standard input. -/
def path? (s : Source) : Option String := s.file.filter (!Path.isDash ·)

/-- The document of a source. -/
def document (host : Host Id) (s : Source) : Except Error Document :=
  match s.path? with
  | some path => do Document.ofText (Command.encoding s path) (← Found.text (host.file path))
  | none => do Document.ofText (if s.toml then .toml else .json) (← Found.text host.input)

end Source

namespace Command

theorem quiet_adoptFilter (given : Option Log.Filter) (settings : Settings) :
    Quiet (adoptFilter given settings) (.ok ()) := by
  unfold adoptFilter
  split
  · exact quiet_pure ()
  · split
    · exact quiet_setFilter _
    · exact quiet_log _

theorem quiet_loadSettings (host : Host Id) (given : Option Log.Filter) :
    Quiet (loadSettings host given) (Settings.ofHost host) := by
  refine (quiet_ask _).bind_ok ((quiet_ofExcept _).bind fun directory => ?_)
  refine (quiet_ask _).bind_ok ((quiet_ofExcept _).bind fun settings => ?_)
  refine (quiet_log _).bind_ok ((quiet_adoptFilter given settings).bind_ok ?_)
  exact (quiet_log _).bind_ok (quiet_pure (directory, settings))

theorem quiet_readDocument (host : Host Id) (s : Source) :
    Quiet (readDocument host s) (s.document host) := by
  unfold readDocument Source.document Source.path?
  cases s.file.filter (!Path.isDash ·) with
  | some path =>
    refine (quiet_ask _).bind_ok ((quiet_ofExcept _).bind fun text => ?_)
    cases s.toml with
    | true => exact quiet_ofExcept _
    | false => exact (quiet_log _).bind_ok (quiet_ofExcept _)
  | none => exact (quiet_ask _).bind_ok ((quiet_ofExcept _).bind fun text => quiet_ofExcept _)

theorem quiet_evaluate (q : Query) (d : Document) : Quiet (evaluate q d) (q.eval d.root) :=
  (quiet_log _).bind_ok (quiet_ofExcept _)

/-! ### The output -/

/-- The text of the matches in a format. -/
def matchesText (format : Format) (policy : Composites) (c : Collection) :
    Except Error (List Char) :=
  match format with
  | .json => .ok ((Json.array (c.entries.map Entry.value)).indentedChars 0 ++ ['\n'])
  | .values => do return (← c.scalars policy).flatMap scalarLine
  | .count => .ok (Nat.toDigits 10 c.entries.length ++ ['\n'])

/-- What a command prints on a host, or why it prints nothing. -/
def output (host : Host Id) : Command → Except Error (List Char)
  | query expression source format skip => do
    let (_, settings) ← Settings.ofHost host
    let f ← formatOf settings format
    let q ← Query.read expression
    let d ← source.document host
    let c ← q.eval d.root
    matchesText f (policyOf settings skip) c
  | names expression source => do
    let _ ← Settings.ofHost host
    let q ← Query.read expression
    let d ← source.document host
    return nameLines (← q.eval d.root)
  | parse expression => do return (← Query.read expression).chars ++ ['\n']
  | showSettings => do
    let (directory, settings) ← Settings.ofHost host
    return '#' :: ' ' :: (Settings.path directory).toList ++ ['\n'] ++ settings.chars

theorem prints_printMatches (format : Format) (policy : Composites) (c : Collection) :
    Prints (printMatches format policy c) (matchesText format policy c) := by
  cases format with
  | json => exact prints_print _
  | values =>
    exact (quiet_log _).bind_ok_prints ((quiet_ofExcept _).bind_prints fun vs => prints_print _)
  | count => exact prints_print _

theorem prints_perform (host : Host Id) (given : Option Log.Filter) (c : Command) :
    Prints (c.perform host given) (c.output host) := by
  cases c with
  | query expression source format skip =>
    refine (quiet_loadSettings host given).bind_prints fun (_, settings) => ?_
    refine (quiet_ofExcept _).bind_prints fun f => (quiet_ofExcept _).bind_prints fun q => ?_
    refine (quiet_readDocument host source).bind_prints fun d => ?_
    refine (quiet_evaluate q d).bind_prints fun c => ?_
    exact (quiet_log _).bind_ok_prints (prints_printMatches f (policyOf settings skip) c)
  | names expression source =>
    refine (quiet_loadSettings host given).bind_prints fun _ => ?_
    refine (quiet_ofExcept _).bind_prints fun q => ?_
    refine (quiet_readDocument host source).bind_prints fun d => ?_
    exact (quiet_evaluate q d).bind_prints fun c => prints_print _
  | parse expression => exact (quiet_ofExcept _).bind_prints fun q => prints_print _
  | showSettings =>
    exact (quiet_loadSettings host given).bind_prints fun (_, _) => prints_print_print _ _

/-! ### Whole runs -/

/-- The log filter that the environment of a host gives. -/
def givenFilter (host : Host Id) : Option Log.Filter :=
  (host.environment "RUST_LOG" : Option String).bind Log.Filter.read?

theorem run_eq (host : Host Id) (c : Command) :
    c.run host = Report.ofEnd
      (c.perform host (givenFilter host) { filter := (givenFilter host).getD .warnings }) := rfl

/-- A command prints its output and fails as this does, whatever is logged. -/
theorem run_output (host : Host Id) (c : Command) :
    (c.run host).output = String.ofList ((c.output host).toOption.getD []) ∧
      (c.run host).failure = failureOf (c.output host) := by
  obtain ⟨p, hp, hprinted⟩ := c.prints_perform host (givenFilter host)
    { filter := (givenFilter host).getD .warnings }
  rw [run_eq, hp]
  refine ⟨congrArg String.ofList hprinted, ?_⟩
  cases c.output host <;> rfl

end Command

end PathQuery
