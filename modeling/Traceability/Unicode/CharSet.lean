/-!
Contract: sets of characters as ranges of code points.

The ranges of a set ascend and leave a code point between one another. A step
from one character to the next passes over the surrogates, which are no
characters, while two ranges that meet at them stay apart.

Owns: membership and the operations on sets.
Does not own: which characters have which property.
-/

namespace Traceability.Unicode

/-- Ranges of code points, both ends included. -/
structure CharSet where
  ranges : Array (Nat × Nat)
deriving DecidableEq, Repr

namespace CharSet

/-! ## Membership -/

/-- Bisection between two indices: entries before `low` end before the code
point, entries from `high` on begin after it. -/
def bisect (ranges : Array (Nat × Nat)) (code low high : Nat) : Bool :=
  if _ : low < high then
    let middle := (low + high) / 2
    match ranges[middle]? with
    | none => false
    | some (first, last) =>
        if code < first then bisect ranges code low middle
        else if last < code then bisect ranges code (middle + 1) high
        else true
  else false
termination_by high - low

/-- Whether the code point lies in one of the ranges. -/
def containsCode (set : CharSet) (code : Nat) : Bool :=
  bisect set.ranges code 0 set.ranges.size

def contains (set : CharSet) (c : Char) : Bool :=
  set.containsCode c.toNat

def isEmpty (set : CharSet) : Bool := set.ranges.isEmpty

/-- The first and the last code point of the set. -/
def bounds? (set : CharSet) : Option (Nat × Nat) := do
  let lowest ← set.ranges[0]?
  let highest ← set.ranges.back?
  return (lowest.1, highest.2)

/-! ## Sets of given members -/

/-- The last code point. -/
def lastCode : Nat := 0x10FFFF

def empty : CharSet := ⟨#[]⟩

def full : CharSet := ⟨#[(0, lastCode)]⟩

def range (first last : Char) : CharSet := ⟨#[(first.toNat, last.toNat)]⟩

def singleton (c : Char) : CharSet := range c c

/-- Joins a range to those before it, the last one first, where it meets or
touches the last one. -/
def absorb (earlier : List (Nat × Nat)) (range : Nat × Nat) : List (Nat × Nat) :=
  match earlier with
  | [] => [range]
  | (first, last) :: others =>
      if range.1 ≤ last + 1 then (first, max last range.2) :: others
      else range :: earlier

/-- The set of all code points in the ranges, which may come in any order. -/
def ofRanges (ranges : List (Nat × Nat)) : CharSet :=
  let precedes (left right : Nat × Nat) : Bool :=
    left.1 < right.1 || (left.1 == right.1 && left.2 ≤ right.2)
  ⟨((ranges.mergeSort precedes).foldl absorb []).reverse.toArray⟩

/-! ## Operations -/

/-- The code point of the next character. -/
def following (code : Nat) : Nat := if code = 0xD7FF then 0xE000 else code + 1

/-- The code point of the character before. -/
def preceding (code : Nat) : Nat := if code = 0xE000 then 0xD7FF else code - 1

/-- The ranges between ranges, `last` being the end of the one before. Where
two ranges meet across the surrogates, the characters at these ends count as
lying between them. -/
def gaps (last : Option Nat) : List (Nat × Nat) → List (Nat × Nat)
  | [] =>
      match last with
      | none => [(0, lastCode)]
      | some last => if last < lastCode then [(following last, lastCode)] else []
  | (first, final) :: rest =>
      let others := gaps (some final) rest
      match last with
      | none => if 0 < first then (0, preceding first) :: others else others
      | some last =>
          (min (following last) (preceding first), max (following last) (preceding first))
            :: others

def complement (set : CharSet) : CharSet := ⟨(gaps none set.ranges.toList).toArray⟩

def union (left right : CharSet) : CharSet :=
  ofRanges (left.ranges.toList ++ right.ranges.toList)

def unionAll (sets : List CharSet) : CharSet :=
  ofRanges (sets.flatMap fun set => set.ranges.toList)

/-- What two lists of ranges have in common. -/
def commonRanges : List (Nat × Nat) → List (Nat × Nat) → List (Nat × Nat)
  | (first, last) :: left, (start, final) :: right =>
      let others :=
        if last < final then commonRanges left ((start, final) :: right)
        else commonRanges ((first, last) :: left) right
      if max first start ≤ min last final then (max first start, min last final) :: others
      else others
  | _, _ => []
termination_by left right => left.length + right.length

def intersection (left right : CharSet) : CharSet :=
  ⟨(commonRanges left.ranges.toList right.ranges.toList).toArray⟩

/-- The ranges of the first list without those of the second. -/
def remainingRanges : List (Nat × Nat) → List (Nat × Nat) → List (Nat × Nat)
  | [], _ => []
  | left, [] => left
  | (first, last) :: left, (start, final) :: right =>
      if final < first then remainingRanges ((first, last) :: left) right
      else if last < start then
        (first, last) :: remainingRanges left ((start, final) :: right)
      else
        let others :=
          if final < last then remainingRanges ((following final, last) :: left) right
          else remainingRanges left ((start, final) :: right)
        if first < start then (first, preceding start) :: others else others
termination_by left right => left.length + right.length

def difference (left right : CharSet) : CharSet :=
  ⟨(remainingRanges left.ranges.toList right.ranges.toList).toArray⟩

/-- The members of one of the sets but not of both. -/
def symmetricDifference (left right : CharSet) : CharSet :=
  (left.union right).difference (left.intersection right)

end CharSet

end Traceability.Unicode
