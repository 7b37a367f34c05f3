/-!
Contract: what expressions ask of an engine for regular patterns.

An engine compiles a text to a pattern, or refuses it. A pattern keeps the text
that it was compiled from, and occurs in other texts or does not. Which texts
are accepted, and where a pattern occurs, is left to the engine.

Owns: the operations of an engine, and when two patterns are equal.
Does not own: any engine.
-/

namespace Traceability

/-- An engine for regular patterns, with what is relied on of its operations:
a pattern is all that there is to its text. -/
class PatternEngine where
  Compiled : Type
  compile? : String → Option Compiled
  text : Compiled → String
  occursIn : Compiled → String → Bool
  compile?_text (pattern : Compiled) : compile? (text pattern) = some pattern
  text_of_compile? {source : String} {pattern : Compiled}
    (compiled : compile? source = some pattern) : text pattern = source

namespace PatternEngine

variable [PatternEngine]

theorem eq_of_text_eq {left right : Compiled} (same : text left = text right) : left = right := by
  apply Option.some.inj
  rw [← compile?_text left, same, compile?_text]

instance : DecidableEq Compiled := fun left right =>
  if same : text left = text right then .isTrue (eq_of_text_eq same)
  else .isFalse fun equal => same (congrArg text equal)

end PatternEngine

end Traceability
