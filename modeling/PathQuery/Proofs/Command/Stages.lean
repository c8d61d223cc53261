import PathQuery.Proofs.Command.Output

/-! # The stages of commands

A command goes through stages, each of which may fail for a reason of its own
(`Command.failure?`).  Its output says the same of its failure as the list of its stages: the
first that fails counts (`Command.failureOf_output`).  As a command prints only when no stage is
left, it does all that it is asked to or nothing (`Request.answer_all_or_nothing`). -/
namespace PathQuery

/-- A part of a command that may fail. -/
inductive Stage where
  | settings
  | format
  | expression
  | document
  | evaluation
  | projection
  deriving DecidableEq, Repr

@[simp] theorem toOption_ok {ε α : Type} (a : α) :
    (.ok a : Except ε α).toOption = some a := rfl

@[simp] theorem toOption_error {ε α : Type} (e : ε) :
    (.error e : Except ε α).toOption = none := rfl

namespace Command

/-- The stages of a command, in their order. -/
def stages : Command → List Stage
  | query .. => [.settings, .format, .expression, .document, .evaluation, .projection]
  | names .. => [.settings, .expression, .document, .evaluation]
  | parse _ => [.expression]
  | showSettings => [.settings]

/-- Why a stage of a command fails on a host, if it does.  A stage for which the result of
another is missing does not fail on its own. -/
def failure? (host : Host Id) : Command → Stage → Option Error
  | query _ _ format _, .format => do
    let (_, settings) ← (Settings.ofHost host).toOption
    failureOf (formatOf settings format)
  | query expression source format skip, .projection => do
    let (_, settings) ← (Settings.ofHost host).toOption
    let f ← (formatOf settings format).toOption
    let q ← (Query.read expression).toOption
    let d ← (source.document host).toOption
    let c ← (q.eval d.root).toOption
    if f = .values then failureOf (c.scalars (policyOf settings skip)) else none
  | query expression source _ _, .evaluation | names expression source, .evaluation => do
    let q ← (Query.read expression).toOption
    let d ← (source.document host).toOption
    failureOf (q.eval d.root)
  | query _ source _ _, .document | names _ source, .document =>
    failureOf (source.document host)
  | query expression .., .expression | names expression _, .expression
  | parse expression, .expression => failureOf (Query.read expression)
  | query .., .settings | names .., .settings | showSettings, .settings =>
    failureOf (Settings.ofHost host)
  | _, _ => none

theorem failureOf_matchesText (format : Format) (policy : Composites) (c : Collection) :
    failureOf (matchesText format policy c) =
      if format = .values then failureOf (c.scalars policy) else none := by
  cases format with
  | json => rfl
  | values => simp [matchesText]
  | count => rfl

/-- The output fails as the first stage does that fails. -/
theorem failureOf_output (host : Host Id) (c : Command) :
    failureOf (c.output host) = c.stages.findSome? (c.failure? host) := by
  cases c with
  | query expression source format skip =>
    -- where a stage fails those before it have succeeded, and both sides end with its error
    simp only [output, stages, List.findSome?, failure?]
    rcases Settings.ofHost host with e | s
    · simp
    rcases hf : formatOf s.2 format with e | f
    · simp [hf]
    rcases Query.read expression with e | q
    · simp [hf]
    rcases source.document host with e | d
    · simp [hf]
    rcases hc : q.eval d.root with e | c
    · simp [hf, hc]
    simp only [toOption_ok, failureOf_ok_bind, failureOf_ok, Option.bind_eq_bind,
      Option.bind_some, hf, hc, failureOf_matchesText]
    cases (if f = .values then failureOf (c.scalars (policyOf s.2 skip)) else none) <;> rfl
  | names expression source =>
    simp only [output, stages, List.findSome?, failure?]
    rcases Settings.ofHost host with e | s
    · simp
    rcases Query.read expression with e | q
    · simp
    rcases source.document host with e | d
    · simp
    rcases hc : q.eval d.root with e | c <;> simp [hc]
  | parse expression =>
    simp only [output, stages, List.findSome?, failure?]
    cases Query.read expression <;> simp
  | showSettings =>
    simp only [output, stages, List.findSome?, failure?]
    cases Settings.ofHost host <;> simp

end Command

end PathQuery
