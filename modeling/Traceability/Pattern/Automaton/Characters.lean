import Std.Data.HashMap
import Traceability.Pattern.Automaton.Assembly

/-!
Contract: fragments that take one character of a set.

Forwards, the byte sequences of the set form a tree whose equal branches are
shared; backwards, they begin apart and share what they end with. What can be
shared is kept in a store of limited size, where a later entry displaces an
earlier one in the same place, so that sharing is not complete.

Owns: the fragments and the rule of sharing.
Does not own: the byte sequences of a set.
-/

namespace Traceability.Pattern.Automaton

open Traceability.Text (ByteRange)
open Traceability.Unicode (CharSet)

/-! ## Stores -/

/-- Entries by place, each with the key that it was stored for. -/
abbrev Store (Key : Type) := Std.HashMap Nat (Key × Nat)

/-- The Fowler-Noll-Vo hash, in the variant that mixes before it multiplies. -/
def hashOf (values : List UInt64) : UInt64 :=
  values.foldl (fun hash value => (hash ^^^ value) * 1099511628211) 14695981039346656037

/-- The number stored for the key; if there is none, the one that `build`
gives, which is stored. -/
def Store.getOrBuild {Key : Type} [DecidableEq Key] (store : Store Key) (place : Nat) (key : Key)
    (build : Assembler Nat) : Assembler (Nat × Store Key) :=
  let known : Option Nat :=
    match store[place]? with
    | some (stored, number) => if stored = key then some number else none
    | none => none
  match known with
  | some number => return (number, store)
  | none => do
      let number ← build
      return (number, store.insert place (key, number))

/-! ## Forwards -/

/-- A state that is not finished: its moves, and the range of the last one,
whose target is still open. -/
structure OpenState where
  moves : Array Move
  pending : Option ByteRange

/-- Places in the store of finished states. -/
def finishedPlaces : Nat := 10000

/-- The number of the state with these moves. -/
def finish (store : Store (Array Move)) (moves : Array Move) :
    Assembler (Nat × Store (Array Move)) :=
  let hash := hashOf (moves.toList.flatMap fun move =>
    [move.bytes.first.toUInt64, move.bytes.last.toUInt64, UInt64.ofNat move.target])
  store.getOrBuild (hash.toNat % finishedPlaces) moves (Assembler.add (.steps moves))

/-- Lets the open move lead to the target. -/
def OpenState.close (state : OpenState) (target : Nat) : Array Move :=
  match state.pending with
  | some bytes => state.moves.push ⟨bytes, target⟩
  | none => state.moves

/-- Finishes the states along the open moves, the innermost one first. The
result is where the open move before them leads. -/
def finishAll (target : Nat) (store : Store (Array Move)) :
    List OpenState → Assembler (Nat × Store (Array Move))
  | [] => return (target, store)
  | state :: inner => do
      let (next, store) ← finishAll target store inner
      finish store (state.close next)

/-- Adds a byte sequence to the open states, the outermost one first. States
are finished where the sequence leaves the one before it. -/
def addSequence (target : Nat) (store : Store (Array Move)) :
    List OpenState → List ByteRange → Assembler (List OpenState × Store (Array Move))
  | state :: inner, bytes :: rest => do
      if state.pending = some bytes then
        let (inner, store) ← addSequence target store inner rest
        return (state :: inner, store)
      else
        let (next, store) ← finishAll target store inner
        return (⟨state.close next, some bytes⟩ :: rest.map fun bytes => ⟨#[], some bytes⟩, store)
  | _, rest => return (rest.map fun bytes => ⟨#[], some bytes⟩, store)

def addSequences (target : Nat) (states : List OpenState) (store : Store (Array Move)) :
    List (List ByteRange) → Assembler (List OpenState × Store (Array Move))
  | [] => return (states, store)
  | sequence :: others => do
      let (states, store) ← addSequence target store states sequence
      addSequences target states store others

/-- One of the byte sequences, read forwards. -/
def Assembler.forwards (sequences : List (List ByteRange)) : Assembler Fragment := do
  let target ← add (.pass 0)
  let (states, store) ← addSequences target [⟨#[], none⟩] ∅ sequences
  let (entry, _) ← finishAll target store states
  return ⟨entry, target⟩

/-! ## Backwards -/

/-- A state that takes one range, by where it leads. -/
structure Tail where
  target : Nat
  bytes : ByteRange
deriving DecidableEq

/-- Places in the store of tails. -/
def tailPlaces : Nat := 1000

/-- The number of the state that begins the sequence, read from its end. -/
def addTail (target : Nat) (store : Store Tail) : List ByteRange → Assembler (Nat × Store Tail)
  | [] => return (target, store)
  | bytes :: rest => do
      let hash := hashOf [UInt64.ofNat target, bytes.first.toUInt64, bytes.last.toUInt64]
      let (number, store) ←
        store.getOrBuild (hash.toNat % tailPlaces) ⟨target, bytes⟩
          (Assembler.add (.step ⟨bytes, target⟩))
      addTail number store rest

def addTails (branch target : Nat) (store : Store Tail) :
    List (List ByteRange) → Assembler Unit
  | [] => return ()
  | sequence :: others => do
      let (number, store) ← addTail target store sequence
      Assembler.connect branch number
      addTails branch target store others

/-- One of the byte sequences, read backwards. -/
def Assembler.backwards (sequences : List (List ByteRange)) : Assembler Fragment := do
  let branch ← add (.branch [])
  let target ← add (.pass 0)
  addTails branch target ∅ sequences
  return ⟨branch, target⟩

/-! ## Sets -/

inductive Direction where
  | forward
  | backward
deriving DecidableEq, Repr

/-- One character of the set. -/
def Assembler.character (direction : Direction) (set : CharSet) : Assembler Fragment :=
  let isAscii := (set.bounds?.map fun bounds => bounds.2).all (· ≤ 0x7F)
  if isAscii then do
    let target ← add (.pass 0)
    let moves := set.ranges.map fun (first, last) =>
      Move.mk ⟨UInt8.ofNat first, UInt8.ofNat last⟩ target
    return ⟨← add (.steps moves), target⟩
  else
    let sequences := set.ranges.toList.flatMap fun (first, last) =>
      ByteRange.sequencesOf first last
    match direction with
    | .forward => forwards sequences
    | .backward => backwards sequences

end Traceability.Pattern.Automaton
