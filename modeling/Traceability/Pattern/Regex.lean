import Traceability.Pattern.Property

/-!
Contract: regular expressions in a simple form.

An expression is built by the functions below, which keep it simple: adjacent
literals are one literal, sequences do not hold sequences nor choices choices,
a choice between single characters or between sets is a set, and parts with
which all branches of a choice begin stand before it.

Owns: the simple form, how long the matches of an expression are, and the
places with which all of them begin.
Does not own: how patterns are written.
-/

namespace Traceability.Pattern

open Traceability.Unicode (CharSet)

/-- A test of the characters on both sides of a position. The characters of
words are those of all scripts, or those of ASCII alone. -/
inductive Assertion where
  | textStart
  | textEnd
  /-- After a line feed; with `returns`, after a carriage return too. -/
  | lineStart (returns : Bool)
  | lineEnd (returns : Bool)
  | wordBoundary (unicode : Bool)
  | notWordBoundary (unicode : Bool)
  | wordStart (unicode : Bool)
  | wordEnd (unicode : Bool)
  | wordStartHalf (unicode : Bool)
  | wordEndHalf (unicode : Bool)
deriving DecidableEq, Repr

inductive Regex where
  | empty
  /-- The UTF-8 encoding of a text. -/
  | literal (bytes : List UInt8)
  /-- One character of the set. `ofBytes` tells sets that were written without
  the flag `u` apart. -/
  | set (members : CharSet) (ofBytes : Bool)
  | place (assertion : Assertion)
  | repetition (inner : Regex) (least : Nat) (most : Option Nat) (greedy : Bool)
  | capture (number : Nat) (inner : Regex)
  | sequence (parts : List Regex)
  | choice (branches : List Regex)
deriving BEq

namespace Regex

/-! ## Lengths and places -/

mutual

/-- The length in bytes of the longest match, if there is a longest one. -/
def maxLength? : Regex → Option Nat
  | .empty | .place _ => some 0
  | .literal bytes => some bytes.length
  | .set members ofBytes =>
      members.bounds?.map fun bounds =>
        if ofBytes then 1 else (Char.ofNat bounds.2).utf8Size
  | .repetition inner _ most _ =>
      most.bind fun most => inner.maxLength?.map fun length => length * most
  | .capture _ inner => inner.maxLength?
  | .sequence parts => maxTotal? 0 parts
  | .choice branches => maxOfAll? 0 branches

def maxTotal? (total : Nat) : List Regex → Option Nat
  | [] => some total
  | head :: tail => head.maxLength?.bind fun length => maxTotal? (total + length) tail

def maxOfAll? (longest : Nat) : List Regex → Option Nat
  | [] => some longest
  | head :: tail => head.maxLength?.bind fun length => maxOfAll? (max longest length) tail

end

mutual

/-- The length in bytes of the shortest match. There is none where a set
without members stands. -/
def minLength? : Regex → Option Nat
  | .empty | .place _ => some 0
  | .literal bytes => some bytes.length
  | .set members ofBytes =>
      members.bounds?.map fun bounds =>
        if ofBytes then 1 else (Char.ofNat bounds.1).utf8Size
  | .repetition inner least _ _ => inner.minLength?.map fun length => length * least
  | .capture _ inner => inner.minLength?
  | .sequence parts => minTotal? 0 parts
  | .choice branches => minOfAll? none branches

def minTotal? (total : Nat) : List Regex → Option Nat
  | [] => some total
  | head :: tail => head.minLength?.bind fun length => minTotal? (total + length) tail

def minOfAll? (shortest : Option Nat) : List Regex → Option Nat
  | [] => shortest
  | head :: tail =>
      head.minLength?.bind fun length =>
        minOfAll? (some (shortest.elim length (min length))) tail

end

mutual

/-- Whether every match begins by testing for the assertion. -/
def beginsWith (assertion : Assertion) : Regex → Bool
  | .empty | .literal _ | .set _ _ => false
  | .place tested => tested = assertion
  | .repetition inner least _ _ => 0 < least && inner.beginsWith assertion
  | .capture _ inner => inner.beginsWith assertion
  | .sequence parts => anyBeginsWith assertion parts
  | .choice branches => !branches.isEmpty && allBeginWith assertion branches

/-- The same for parts in sequence, where those before take no character. -/
def anyBeginsWith (assertion : Assertion) : List Regex → Bool
  | [] => false
  | head :: tail =>
      head.beginsWith assertion ||
        (head.maxLength? == some 0 && anyBeginsWith assertion tail)

def allBeginWith (assertion : Assertion) : List Regex → Bool
  | [] => true
  | head :: tail => head.beginsWith assertion && allBeginWith assertion tail

end

mutual

/-- The expression of the reversed byte sequences, but for sets of characters,
which stay as they are. -/
def reversed : Regex → Regex
  | .empty => .empty
  | .literal bytes => .literal bytes.reverse
  | .set members ofBytes => .set members ofBytes
  | .place assertion => .place assertion
  | .repetition inner least most greedy => .repetition inner.reversed least most greedy
  | .capture number inner => .capture number inner.reversed
  | .sequence parts => .sequence (allReversed [] parts)
  | .choice branches => .choice (allReversed [] branches).reverse

/-- The reversed expressions in reverse order, in front of `done`. -/
def allReversed (done : List Regex) : List Regex → List Regex
  | [] => done
  | head :: tail => allReversed (head.reversed :: done) tail

end

/-! ## Building expressions -/

/-- What never matches. -/
def never : Regex := .set .empty true

/-- The expression of one character of the set; a lone one is a literal. -/
def ofSet (members : CharSet) (ofBytes : Bool) : Regex :=
  match members.bounds? with
  | none => never
  | some (lowest, highest) =>
      if lowest = highest then .literal (String.utf8EncodeChar (Char.ofNat lowest))
      else .set members ofBytes

/-- An expression several times over. Where it takes no character, a second
turn adds nothing to the first. -/
def repeated (inner : Regex) (least : Nat) (most : Option Nat) (greedy : Bool) : Regex :=
  let (least, most) :=
    if inner.maxLength? = some 0 then (min least 1, some (min (most.getD 1) 1))
    else (least, most)
  match least, most with
  | 0, some 0 => .empty
  | 1, some 1 => inner
  | _, _ => .repetition inner least most greedy

/-- Joins literals that stand side by side and drops empty parts. `pending`
holds the bytes of the literal being joined and `done` the parts before it,
both backwards. -/
def joinLiterals (pending : List UInt8) (done : List Regex) : List Regex → List Regex
  | [] => (if pending.isEmpty then done else .literal pending.reverse :: done).reverse
  | .literal bytes :: rest => joinLiterals (bytes.reverseAux pending) done rest
  | .empty :: rest => joinLiterals pending done rest
  | part :: rest =>
      joinLiterals [] (part :: if pending.isEmpty then done else .literal pending.reverse :: done)
        rest

/-- Expressions one after another. -/
def sequenceOf (parts : List Regex) : Regex :=
  let members : Regex → List Regex
    | .sequence parts => parts
    | part => [part]
  match joinLiterals [] [] (parts.flatMap members) with
  | [] => .empty
  | [part] => part
  | parts => .sequence parts

/-- The only character of a literal. -/
def singleCharacter? : Regex → Option Char
  | .literal bytes =>
      match (String.fromUTF8? ⟨bytes.toArray⟩).map String.toList with
      | some [c] => some c
      | _ => none
  | _ => none

def members? : Regex → Option CharSet
  | .set members _ => some members
  | _ => none

/-- One character of those that the branches take, if they are all single
characters or all sets. -/
def mergedBranches? (branches : List Regex) : Option Regex :=
  match branches.mapM singleCharacter? with
  | some characters =>
      some (ofSet (CharSet.ofRanges (characters.map fun c => (c.toNat, c.toNat))) false)
  | none =>
      (branches.mapM members?).map fun sets => ofSet (CharSet.unionAll sets) false

/-- The branches of a choice, those of choices among them taken one by one. -/
def flatBranches (branches : List Regex) : List Regex :=
  branches.flatMap fun
    | .choice branches => branches
    | branch => [branch]

/-- A choice between expressions whose beginnings are not shared. -/
def plainChoiceOf (branches : List Regex) : Regex :=
  match flatBranches branches with
  | [] => never
  | [branch] => branch
  | branches => (mergedBranches? branches).getD (.choice branches)

def parts? : Regex → Option (List Regex)
  | .sequence parts => some parts
  | _ => none

/-- The parts with which both lists begin. -/
def sharedBeginning : List Regex → List Regex → List Regex
  | left :: lefts, right :: rights =>
      if left == right then left :: sharedBeginning lefts rights else []
  | _, _ => []

/-- A choice between expressions. Where all of them are sequences with the
same beginning, this stands before the choice between what is left; the rests
have no beginning in common. -/
def choiceOf (branches : List Regex) : Regex :=
  match (flatBranches branches).mapM parts? with
  | some (first :: second :: others) =>
      let shared := (second :: others).foldl sharedBeginning first
      if shared.isEmpty then plainChoiceOf branches
      else
        let rests := (first :: second :: others).map fun parts =>
          sequenceOf (parts.drop shared.length)
        sequenceOf (shared ++ [plainChoiceOf rests])
  | _ => plainChoiceOf branches

end Regex

end Traceability.Pattern
