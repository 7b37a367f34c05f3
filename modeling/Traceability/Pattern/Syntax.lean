import Traceability.Pattern.Property

/-!
Contract: the trees that patterns are read into.

A tree keeps what the text of a pattern says: groups, of which those that
capture are numbered, flags where they are switched, sets as they are written.
What a part of it matches depends on the flags in force there, and is settled
afterwards.

Owns: the shape of patterns, and the depth to which their parts are nested.
Does not own: the text of patterns, or what they match.
-/

namespace Traceability.Pattern

open Traceability.Unicode (CharSet)

/-- Switches that change how the rest of a group is taken. -/
inductive Flag where
  | caseInsensitive
  | multiLine
  | dotAll
  | swapGreed
  | unicode
  | carriageReturn
  | ignoreBlanks
deriving DecidableEq, Repr

/-- Flags to switch, each on or off. -/
abbrev FlagChange := List (Flag × Bool)

/-- A character of a pattern. `fixedByte` marks the two-digit escape, which
stands for a byte where characters are bytes. -/
structure Literal where
  char : Char
  fixedByte : Bool
deriving DecidableEq, Repr

/-- The classes with a letter of their own. -/
inductive LetterClass where
  | digit
  | blank
  | word
deriving DecidableEq, Repr

inductive SetOperation where
  | intersection
  | difference
  | symmetricDifference
deriving DecidableEq, Repr

/-- A set of characters as it is written. -/
inductive SetTree where
  | literal (member : Literal)
  | range (first last : Literal)
  | ascii (negated : Bool) (members : CharSet)
  | letterClass (negated : Bool) (kind : LetterClass)
  | property (negated : Bool) (query : PropertyQuery)
  | bracketed (negated : Bool) (members : SetTree)
  | union (members : List SetTree)
  | operation (kind : SetOperation) (left right : SetTree)

/-- The places that a pattern can ask for without taking a character. -/
inductive Place where
  | textStart
  | textEnd
  | lineStart
  | lineEnd
  | wordBoundary
  | notWordBoundary
  | wordStart
  | wordEnd
  | wordStartHalf
  | wordEndHalf
deriving DecidableEq, Repr

inductive Tree where
  | literal (member : Literal)
  | dot
  | place (kind : Place)
  | set (members : SetTree)
  | flags (change : FlagChange)
  | group (change : FlagChange) (inner : Tree)
  | capture (number : Nat) (inner : Tree)
  /-- `eager` tells whether more turns are preferred, as far as the notation
  says. -/
  | repetition (inner : Tree) (least : Nat) (most : Option Nat) (eager : Bool)
  | alternation (branches : List Tree)
  | concatenation (parts : List Tree)

mutual

/-- How deep brackets, unions and operations are nested in a set. -/
def SetTree.depth : SetTree → Nat
  | .literal _ | .range _ _ | .ascii _ _ | .letterClass _ _ | .property _ _ => 0
  | .bracketed _ members => members.depth + 1
  | .union members => if members.isEmpty then 0 else deepest 0 members + 1
  | .operation _ left right => max left.depth right.depth + 1

/-- The depth of the deepest of the trees, if it exceeds `depth`. -/
def SetTree.deepest (depth : Nat) : List SetTree → Nat
  | [] => depth
  | head :: tail => deepest (max depth head.depth) tail

end

mutual

/-- How deep the parts of a pattern are nested. -/
def Tree.depth : Tree → Nat
  | .literal _ | .dot | .place _ | .flags _ => 0
  | .set members => members.depth
  | .group _ inner | .capture _ inner => inner.depth + 1
  | .repetition inner _ _ _ => inner.depth + 1
  | .alternation branches => deepest 0 branches + 1
  | .concatenation parts => if parts.isEmpty then 0 else deepest 0 parts + 1

/-- The depth of the deepest of the trees, if it exceeds `depth`. -/
def Tree.deepest (depth : Nat) : List Tree → Nat
  | [] => depth
  | head :: tail => deepest (max depth head.depth) tail

end

end Traceability.Pattern
