import Traceability.Pattern.Automaton.Basic

/-!
Contract: putting automata together from fragments, within a limit of space.

A fragment has a state where it is entered and one where it is left; fragments
are connected by letting the latter lead on. States keep the numbers that they
get when they are added. As soon as the states are charged for more than the
limit, there is no automaton.

Owns: the states added so far, and the ways of combining fragments.
Does not own: which fragments an expression is made of.
-/

namespace Traceability.Pattern.Automaton

open Traceability.Text (ByteRange)

/-- Ten mebibytes. -/
def sizeLimit : Nat := 10 * Nat.pow 2 20

/-- The states added so far, and the bytes charged for what they list. -/
structure Assembly where
  states : Array State
  listed : Nat

namespace Assembly

def empty : Assembly := ⟨#[], 0⟩

/-- Bytes charged for all states. -/
def size (assembly : Assembly) : Nat :=
  stateSize * assembly.states.size + assembly.listed

end Assembly

/-- What adds states and gives a result, as long as the limit is kept. -/
abbrev Assembler := StateT Assembly Option

/-- A part of an automaton, by the states where it is entered and left. -/
structure Fragment where
  entry : Nat
  exit : Nat
deriving DecidableEq, Repr

namespace Assembler

/-- Goes on with these states if they keep the limit. -/
def settle {α : Type} (result : α) (assembly : Assembly) : Option (α × Assembly) :=
  if sizeLimit < assembly.size then none else some (result, assembly)

/-- Adds a state; the result is its number. -/
def add (state : State) : Assembler Nat := fun assembly =>
  let number := assembly.states.size
  settle number ⟨assembly.states.push state, assembly.listed + state.listSize⟩

/-- Lets the source lead to the target. -/
def connect (source target : Nat) : Assembler Unit := fun assembly =>
  let isBranch :=
    match assembly.states[source]? with
    | some (.branch _) => true
    | _ => false
  settle () ⟨assembly.states.modify source (·.connect target),
    if isBranch then assembly.listed + 4 else assembly.listed⟩

/-- A fragment of one state. -/
def single (state : State) : Assembler Fragment := do
  let number ← add state
  return ⟨number, number⟩

/-- The fragment that takes nothing. -/
def nothing : Assembler Fragment := single (.pass 0)

/-- The fragment that takes one byte of the range. -/
def oneByte (bytes : ByteRange) : Assembler Fragment := single (.step ⟨bytes, 0⟩)

/-- Fragments after one that is there. -/
def followedBy (before : Fragment) : List (Assembler Fragment) → Assembler Fragment
  | [] => return before
  | part :: parts => do
      let next ← part
      connect before.exit next.entry
      followedBy ⟨before.entry, next.exit⟩ parts

/-- Fragments one after another. -/
def chain : List (Assembler Fragment) → Assembler Fragment
  | [] => nothing
  | part :: parts => do followedBy (← part) parts

/-- Copies of a fragment after one that is there. -/
def followedByCopies (part : Assembler Fragment) : Nat → Fragment → Assembler Fragment
  | 0, before => return before
  | count + 1, before => do
      let next ← part
      connect before.exit next.entry
      followedByCopies part count ⟨before.entry, next.exit⟩

/-- So many copies of a fragment, one after another. -/
def copies (part : Assembler Fragment) : Nat → Assembler Fragment
  | 0 => nothing
  | count + 1 => do followedByCopies part count (← part)

/-- Leads from the branch through the fragment to the end. -/
def through (branch ending : Nat) (part : Fragment) : Assembler Unit := do
  connect branch part.entry
  connect part.exit ending

/-- Further fragments to choose from. -/
def orElse (branch ending : Nat) : List (Assembler Fragment) → Assembler Fragment
  | [] => return ⟨branch, ending⟩
  | part :: parts => do
      through branch ending (← part)
      orElse branch ending parts

/-- One of the fragments. -/
def choose : List (Assembler Fragment) → Assembler Fragment
  | [] => single (.branch [])
  | [part] => part
  | first :: second :: others => do
      let left ← first
      let right ← second
      let branch ← add (.branch [])
      let ending ← add (.pass 0)
      through branch ending left
      through branch ending right
      orElse branch ending others

/-- The fragment or nothing. -/
def optional (part : Assembler Fragment) : Assembler Fragment := do
  let branch ← add (.branch [])
  let inner ← part
  let ending ← add (.pass 0)
  connect branch inner.entry
  connect branch ending
  connect inner.exit ending
  return ⟨branch, ending⟩

/-- Any number of turns. Where a turn may take nothing, the first one is told
apart from the others. -/
def anyTurns (part : Assembler Fragment) (takesBytes : Bool) : Assembler Fragment := do
  if takesBytes then
    let branch ← add (.branch [])
    let inner ← part
    connect branch inner.entry
    connect inner.exit branch
    return ⟨branch, branch⟩
  else
    let inner ← part
    let again ← add (.branch [])
    connect inner.exit again
    connect again inner.entry
    let first ← add (.branch [])
    let ending ← add (.pass 0)
    connect first inner.entry
    connect first ending
    connect again ending
    return ⟨first, ending⟩

/-- One turn or more. -/
def someTurns (part : Assembler Fragment) : Assembler Fragment := do
  let inner ← part
  let again ← add (.branch [])
  connect inner.exit again
  connect again inner.entry
  return ⟨inner.entry, again⟩

/-- At least so many turns. -/
def atLeast (part : Assembler Fragment) (takesBytes : Bool) (least : Nat) : Assembler Fragment :=
  match least with
  | 0 => anyTurns part takesBytes
  | 1 => someTurns part
  | least + 1 => do
      let before ← copies part least
      let last ← part
      let again ← add (.branch [])
      connect before.exit last.entry
      connect last.exit again
      connect again last.entry
      return ⟨before.entry, again⟩

/-- So many turns at most, each of which may be the end. `left` is where the
turn before is left. -/
def upTo (part : Assembler Fragment) (ending : Nat) : Nat → Nat → Assembler Unit
  | 0, left => connect left ending
  | count + 1, left => do
      let branch ← add (.branch [])
      let inner ← part
      connect left branch
      connect branch inner.entry
      connect branch ending
      upTo part ending count inner.exit

/-- Turns between two counts. -/
def between (part : Assembler Fragment) (least most : Nat) : Assembler Fragment := do
  let before ← copies part least
  let ending ← add (.pass 0)
  upTo part ending (most - least) before.exit
  return ⟨before.entry, ending⟩

end Assembler

end Traceability.Pattern.Automaton
