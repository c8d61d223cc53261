import PathQuery.Pattern.Resolve
import PathQuery.Pattern.Size

/-! # Patterns

A pattern is a source text together with the regular expression it stands for.  The
expression is determined by the source, so two patterns with the same source are the
same pattern. -/
namespace PathQuery

/-- The expression of a source text: `none` if the text is not well formed or names an
unknown class. -/
def Expression.read? (source : String) : Option Expression :=
  (Pattern.Ast.read? source.toList).bind fun a => (a.resolve? {}).map (·.1)

/-- The regular expression of a source text: `none` if it has no expression or one that
is too large. -/
def Regex.compile? (source : String) : Option Regex :=
  match Expression.read? source with
  | none => none
  | some e => if e.isSmall then some e.regex else none

/-- A pattern that compiles. -/
structure Pattern where
  source : String
  regex : Regex
  compiles : Regex.compile? source = some regex

namespace Pattern

/-- The pattern with the given source. -/
def compile? (source : String) : Option Pattern :=
  match h : Regex.compile? source with
  | some r => some ⟨source, r, h⟩
  | none => none

/-- Whether some part of the text is a match. -/
def matchesText (p : Pattern) (text : String) : Bool := p.regex.found text.toList

theorem eq_of_source_eq {p q : Pattern} (h : p.source = q.source) : p = q := by
  obtain ⟨s, r, hr⟩ := p
  obtain ⟨t, u, hu⟩ := q
  subst h
  have : r = u := Option.some.inj (hr.symm.trans hu)
  subst this
  rfl

/-- Two patterns are told apart by their sources. -/
instance : DecidableEq Pattern := fun p q =>
  if h : p.source = q.source then isTrue (eq_of_source_eq h)
  else isFalse fun e => h (congrArg Pattern.source e)

/-- Every pattern is compiled from its own source. -/
theorem compile?_source (p : Pattern) : compile? p.source = some p := by
  unfold compile?
  split
  · exact congrArg some (eq_of_source_eq rfl)
  · rename_i h; rw [p.compiles] at h; cases h

end Pattern

end PathQuery
