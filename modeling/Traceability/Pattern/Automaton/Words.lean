import Traceability.Pattern.Automaton.Assembly

/-!
Contract: choices between words, as trees in which beginnings are shared.

A word that goes on where an earlier one ended comes after it, so that the
order of the words is kept: what is added below an end is not merged with what
stands before the end.

Owns: the trees, and the fragments built from them.
Does not own: choices between other expressions.
-/

namespace Traceability.Pattern.Automaton

/-- What can follow at a point of a word: alternatives in their order. -/
inductive WordTree where
  | none
  /-- A word ends here, or goes on as the others say. -/
  | ending (others : WordTree)
  | byte (next : UInt8) (inner : WordTree) (others : WordTree)

namespace WordTree

def ofWord : List UInt8 → WordTree
  | [] => .ending .none
  | next :: rest => .byte next (ofWord rest) .none

def hasEnding : WordTree → Bool
  | .none => false
  | .ending _ => true
  | .byte _ _ others => others.hasEnding

/-- Whether no word goes on. -/
def isLeaf : WordTree → Bool
  | .none => true
  | .ending others => others.isLeaf
  | .byte _ _ _ => false

/-- Marks the end of a word after all alternatives. -/
def insertEnding : WordTree → WordTree
  | .none => .ending .none
  | .ending others => .ending others.insertEnding
  | .byte next inner others => .byte next inner others.insertEnding

/-- Adds a word. The bytes after the last end are in ascending order. A second
end that nothing parts from the first is none. -/
def insert (word : List UInt8) : WordTree → WordTree
  | .none => ofWord word
  | .ending others =>
      if word.isEmpty && others.isLeaf then .ending others
      else .ending (others.insert word)
  | .byte next inner others =>
      match word with
      | [] => .byte next inner others.insertEnding
      | first :: rest =>
          if others.hasEnding || next < first then .byte next inner (others.insert word)
          else if next = first then .byte next (inner.insert rest) others
          else .byte first (ofWord rest) (.byte next inner others)

def ofWords (words : List (List UInt8)) : WordTree :=
  words.foldl (fun tree word => tree.insert word) .none

/-- Adds a state for moves that were gathered, the last one first; one move
alone is a plain step. Its number goes in front of `targets`. -/
def flush (moves : List Move) (targets : List Nat) : Assembler (List Nat) :=
  match moves with
  | [] => return targets
  | [move] => return (← Assembler.add (.step move)) :: targets
  | moves => return (← Assembler.add (.steps moves.reverse.toArray)) :: targets

/-- Adds the states for the alternatives; the result are those that begin
them. -/
def assemble (final : Nat) (moves : List Move) (targets : List Nat) :
    WordTree → Assembler (List Nat)
  | .none => flush moves targets
  | .ending others => do
      let targets ← flush moves targets
      others.assemble final [] (final :: targets)
  | .byte next inner others => do
      let target ←
        if inner.isLeaf then pure final
        else do Assembler.add (.branch (← inner.assemble final [] []))
      others.assemble final (⟨⟨next, next⟩, target⟩ :: moves) targets

end WordTree

/-- A choice between words. -/
def Assembler.words (words : List (List UInt8)) : Assembler Fragment := do
  let final ← add (.pass 0)
  let targets ← (WordTree.ofWords words).assemble final [] []
  return ⟨← add (.branch targets), final⟩

end Traceability.Pattern.Automaton
