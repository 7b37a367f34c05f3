import Traceability.Expression.PatternEngine
import Traceability.Pattern.Automaton.OfRegex
import Traceability.Pattern.Automaton.Search
import Traceability.Pattern.Meaning
import Traceability.Pattern.Reader

/-!
Contract: regular patterns as values.

A pattern is a text that has a meaning as a regular expression and keeps
within the limits on nesting and on the size of its automata. Two patterns are
equal exactly when their texts are.

Owns: which texts are patterns, and whether a pattern occurs in a text.
Does not own: where expressions use patterns.
-/

namespace Traceability

namespace Pattern

/-- Parts may be nested this deep. -/
def depthLimit : Nat := 250

/-- The automaton that searches for what a text denotes, if it is a pattern. -/
def automatonOf? (text : String) : Option Pattern.Automaton := do
  let tree ← Pattern.Tree.ofText? text
  if depthLimit < tree.depth then none
  let (regex, _) ← tree.toRegex? Pattern.Flags.initial
  let forward ← regex.automaton? .forward
  let _ ← regex.automaton? .backward
  return forward

end Pattern

/-- A text that is a regular pattern, with its automaton. -/
structure Pattern where
  text : String
  automaton : Pattern.Automaton
  isPattern : Pattern.automatonOf? text = some automaton

namespace Pattern

theorem eq_of_text_eq {left right : Pattern} (same : left.text = right.text) : left = right := by
  obtain ⟨text, automaton, isPattern⟩ := left
  obtain ⟨_, other, isAlso⟩ := right
  subst same
  obtain rfl : automaton = other := Option.some.inj (isPattern.symm.trans isAlso)
  rfl

def ofText? (text : String) : Option Pattern :=
  match isPattern : automatonOf? text with
  | some automaton => some ⟨text, automaton, isPattern⟩
  | none => none

/-- Whether the pattern occurs anywhere in the text. -/
def occursIn (pattern : Pattern) (text : String) : Bool :=
  pattern.automaton.finds text

theorem ofText?_text (pattern : Pattern) : ofText? pattern.text = some pattern := by
  unfold ofText?
  split
  next automaton isPattern =>
    exact congrArg some (eq_of_text_eq rfl)
  next noPattern =>
    rw [pattern.isPattern] at noPattern
    contradiction

theorem text_of_ofText? {text : String} {pattern : Pattern}
    (found : ofText? text = some pattern) : pattern.text = text := by
  unfold ofText? at found
  split at found
  · cases found; rfl
  · cases found

end Pattern

instance : PatternEngine where
  Compiled := Pattern
  compile? := Pattern.ofText?
  text := Pattern.text
  occursIn := Pattern.occursIn
  compile?_text := Pattern.ofText?_text
  text_of_compile? := Pattern.text_of_ofText?

end Traceability
