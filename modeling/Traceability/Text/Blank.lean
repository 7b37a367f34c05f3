/-!
Contract: the characters that separate words.

`isBlank` holds exactly of the characters with the property `White_Space`:
tab to carriage return, the space, the next-line control, and the spaces and
separators outside ASCII.

Owns: the class.
Does not own: which blanks end a line.
-/

namespace Traceability.Text

/-- The property `White_Space`. -/
def isBlank (c : Char) : Bool :=
  let code := c.toNat
  (0x09 ≤ code && code ≤ 0x0D) || code == 0x20 || code == 0x85 || code == 0xA0 ||
    code == 0x1680 || (0x2000 ≤ code && code ≤ 0x200A) || code == 0x2028 ||
    code == 0x2029 || code == 0x202F || code == 0x205F || code == 0x3000

/-- The blanks of core's ASCII class are blanks. -/
theorem isBlank_of_isWhitespace {c : Char} (whitespace : c.isWhitespace = true) :
    isBlank c = true := by
  simp only [Char.isWhitespace, Bool.or_eq_true, decide_eq_true_eq] at whitespace
  rcases whitespace with ((isSpace | isTab) | isReturn) | isNewline
  · subst isSpace; decide
  · subst isTab; decide
  · subst isReturn; decide
  · subst isNewline; decide

example : isBlank '\u2003' ∧ ¬ isBlank '\u200B' := by decide

end Traceability.Text
