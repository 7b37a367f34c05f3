/-!
Contract: what a command answers.

Owns: the answer, exit codes, and columns of text.
Does not own: what is reported.
-/

namespace Traceability

structure Report where
  exitCode : Nat
  output : String
  /-- What goes to the stream for errors. -/
  complaint : String := ""
deriving DecidableEq, Repr

namespace Report

/-- Nothing is wrong. -/
def success : Nat := 0

/-- The model could not be built. -/
def failure : Nat := 1

/-- The arguments are wrong, or what was asked for shows a problem. -/
def problem : Nat := 2

/-- The report of a model that could not be built. -/
def failed (message : String) : Report := ⟨failure, "", "Error: " ++ message ++ "\n"⟩

/-- A text of lines, each of which is ended. -/
def lines (texts : List String) : String := String.join (texts.map (· ++ "\n"))

/-- The text at the left of a column of `width` characters. -/
def atLeft (width : Nat) (text : String) : String :=
  text.pushn ' ' (width - text.length)

/-- The text at the right of a column of `width` characters. -/
def atRight (width : Nat) (text : String) : String :=
  "".pushn ' ' (width - text.length) ++ text

end Report

end Traceability
