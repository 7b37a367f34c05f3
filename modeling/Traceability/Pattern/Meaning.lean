import Traceability.Pattern.Regex
import Traceability.Pattern.Syntax
import Traceability.Unicode.CaseFolding

/-!
Contract: from the tree of a pattern to its regular expression.

Flags run through a tree from left to right: a change holds for the rest of
the group it stands in, later branches included, and ends with the group.
Without the flag `u` characters are bytes, and a set must then keep to ASCII,
since any other byte is only part of a character.

Owns: what every part means under the flags in force, and which sets exist.
Does not own: the notation of patterns.
-/

namespace Traceability.Pattern

open Traceability.Unicode (CharSet)

/-- The flags in force at a point of a pattern. -/
structure Flags where
  caseInsensitive : Bool
  multiLine : Bool
  dotAll : Bool
  swapGreed : Bool
  unicode : Bool
  carriageReturn : Bool
deriving DecidableEq, Repr

namespace Flags

/-- The flags at the beginning of a pattern. -/
def initial : Flags := ⟨false, false, false, false, true, false⟩

/-- Switches one flag. The treatment of blanks has left no trace in a tree. -/
def switch (flags : Flags) : Flag × Bool → Flags
  | (.caseInsensitive, on) => { flags with caseInsensitive := on }
  | (.multiLine, on) => { flags with multiLine := on }
  | (.dotAll, on) => { flags with dotAll := on }
  | (.swapGreed, on) => { flags with swapGreed := on }
  | (.unicode, on) => { flags with unicode := on }
  | (.carriageReturn, on) => { flags with carriageReturn := on }
  | (.ignoreBlanks, _) => flags

def apply (flags : Flags) (change : FlagChange) : Flags :=
  change.foldl switch flags

/-- A byte beyond ASCII is not a character. -/
def permits (flags : Flags) (member : Literal) : Bool :=
  flags.unicode || !member.fixedByte || member.char.toNat < 0x80

/-- Whether a set may hold the character. -/
def permitsInSet (flags : Flags) (member : Literal) : Bool :=
  flags.unicode || member.char.toNat < 0x80

def foldCase (flags : Flags) (members : CharSet) : CharSet :=
  if !flags.caseInsensitive then members
  else if flags.unicode then members.foldCase
  else members.foldAsciiCase

/-- Closes a set under changes of case where the flags ask for it, then takes
the complement if the set is negated. -/
def close? (flags : Flags) (negated : Bool) (members : CharSet) : Option CharSet :=
  if !negated then some (flags.foldCase members)
  else if flags.unicode then some (flags.foldCase members).complement
  else none

def letterClass (flags : Flags) : LetterClass → CharSet
  | .digit => if flags.unicode then digits else .range '0' '9'
  | .blank =>
      if flags.unicode then blanks else .unionAll [.range '\t' '\r', .singleton ' ']
  | .word => if flags.unicode then wordCharacters else asciiWordCharacters

def place (flags : Flags) : Place → Assertion
  | .textStart => .textStart
  | .textEnd => .textEnd
  | .lineStart => if flags.multiLine then .lineStart flags.carriageReturn else .textStart
  | .lineEnd => if flags.multiLine then .lineEnd flags.carriageReturn else .textEnd
  | .wordBoundary => .wordBoundary flags.unicode
  | .notWordBoundary => .notWordBoundary flags.unicode
  | .wordStart => .wordStart flags.unicode
  | .wordEnd => .wordEnd flags.unicode
  | .wordStartHalf => .wordStartHalf flags.unicode
  | .wordEndHalf => .wordEndHalf flags.unicode

/-- The dot is every character but the ends of lines. -/
def dot? (flags : Flags) : Option CharSet :=
  if !flags.unicode then none
  else if flags.dotAll then some .full
  else if flags.carriageReturn then
    some (CharSet.unionAll [.singleton '\r', .singleton '\n']).complement
  else some (CharSet.singleton '\n').complement

end Flags

mutual

/-- The set that a tree describes under the given flags, if it exists. -/
def SetTree.resolve? (flags : Flags) : SetTree → Option CharSet
  | .literal member =>
      if flags.permits member && flags.permitsInSet member then
        some (.singleton member.char)
      else none
  | .range first last =>
      if [first, last].all fun member => flags.permits member && flags.permitsInSet member then
        some (.range first.char last.char)
      else none
  | .ascii negated members => flags.close? negated members
  | .letterClass negated kind =>
      if !negated then some (flags.letterClass kind)
      else if flags.unicode then some (flags.letterClass kind).complement
      else none
  | .property negated query =>
      if flags.unicode then query.resolve?.bind (flags.close? negated) else none
  | .bracketed negated members => (members.resolve? flags).bind (flags.close? negated)
  | .union members => resolveAll? flags [] members
  | .operation kind left right => do
      let left := flags.foldCase (← left.resolve? flags)
      let right := flags.foldCase (← right.resolve? flags)
      match kind with
      | .intersection => return left.intersection right
      | .difference => return left.difference right
      | .symmetricDifference => return left.symmetricDifference right

/-- The union of the given sets and of those that the trees describe. -/
def SetTree.resolveAll? (flags : Flags) (sets : List CharSet) : List SetTree → Option CharSet
  | [] => some (.unionAll sets)
  | head :: tail => do resolveAll? flags ((← head.resolve? flags) :: sets) tail

end

mutual

/-- The regular expression of a tree under the given flags, with the flags
that hold after it. -/
def Tree.toRegex? (flags : Flags) : Tree → Option (Regex × Flags)
  | .literal member =>
      if flags.permits member then
        let members :=
          if flags.unicode || member.char.toNat < 0x80 then
            flags.foldCase (.singleton member.char)
          else .singleton member.char
        some (.ofSet members !flags.unicode, flags)
      else none
  | .dot => flags.dot?.map fun members => (.ofSet members false, flags)
  | .place kind => some (.place (flags.place kind), flags)
  | .set members =>
      (members.resolve? flags).map fun set => (.ofSet set !flags.unicode, flags)
  | .flags change => some (.empty, flags.apply change)
  | .group change inner =>
      (inner.toRegex? (flags.apply change)).map fun result => (result.1, flags)
  | .capture number inner =>
      (inner.toRegex? flags).map fun result => (.capture number result.1, flags)
  | .repetition inner least most eager =>
      (inner.toRegex? flags).map fun result =>
        (.repeated result.1 least most (eager != result.2.swapGreed), result.2)
  | .alternation branches =>
      (toRegexes? flags [] branches).map fun result => (.choiceOf result.1, result.2)
  | .concatenation parts =>
      (toRegexes? flags [] parts).map fun result => (.sequenceOf result.1, result.2)

/-- The regular expressions of trees from left to right. `done` holds those
before them, the last one first. -/
def Tree.toRegexes? (flags : Flags) (done : List Regex) : List Tree → Option (List Regex × Flags)
  | [] => some (done.reverse, flags)
  | head :: tail => do
      let (regex, flags) ← head.toRegex? flags
      toRegexes? flags (regex :: done) tail

end

end Traceability.Pattern
