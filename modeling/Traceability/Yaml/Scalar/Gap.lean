import Traceability.Yaml.Glyph

/-!
Contract: what stands between two words of a scalar that may span lines.

Blanks within a line are kept. A single line end becomes a blank, and of
several the first is dropped; blanks around line ends vanish. A line end that
is escaped counts for nothing itself.

Owns: the gap, and the text it stands for.
Does not own: the words.
-/

namespace Traceability.Yaml

structure Gap where
  /-- Blanks before any line end, the last one first. -/
  blanks : List Char
  /-- Whether a line has ended. -/
  broken : Bool
  /-- The first line end, unless it was escaped. -/
  first : Option Char
  /-- The line ends after the first, the last one first. -/
  later : List Char
deriving DecidableEq, Repr

namespace Gap

def none : Gap := ⟨[], false, Option.none, []⟩

/-- The gap that an escaped line end opens. -/
def escaped : Gap := ⟨[], true, Option.none, []⟩

def isEmpty (gap : Gap) : Bool := gap.blanks.isEmpty && !gap.broken

/-- Blanks at the start of a line vanish. -/
def addBlank (gap : Gap) (c : Char) : Gap :=
  if gap.broken then gap else { gap with blanks := c :: gap.blanks }

def addBreak (gap : Gap) (c : Char) : Gap :=
  if gap.broken then { gap with later := c :: gap.later } else ⟨[], true, some c, []⟩

/-- The text that the gap stands for, its last character first. -/
def reversedText (gap : Gap) : List Char :=
  if !gap.broken then gap.blanks
  else
    match gap.first with
    | some '\n' => if gap.later.isEmpty then [' '] else gap.later
    | some c => gap.later ++ [c]
    | Option.none => gap.later

end Gap

end Traceability.Yaml
