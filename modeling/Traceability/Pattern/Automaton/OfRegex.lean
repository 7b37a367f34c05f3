import Traceability.Pattern.Automaton.Characters
import Traceability.Pattern.Automaton.Words

/-!
Contract: the automaton of a regular expression.

A text is searched forwards, and the end of a match that was found backwards,
so that an expression has an automaton for either direction. Only the forward
one keeps track of groups. Unless all matches begin at the end of the text
that is read first, an automaton skips bytes before a match; searching does so
by itself, so that this part is only charged for.

Owns: which fragments an expression is made of.
Does not own: how fragments are combined.
-/

namespace Traceability.Pattern

open Automaton (Assembly Assembler Fragment Direction)

namespace Regex

def literal? : Regex → Option (List UInt8)
  | .literal bytes => some bytes
  | _ => none

mutual

/-- The fragment of an expression. For the backward direction the expression
has to be reversed already. -/
def assemble (direction : Direction) : Regex → Assembler Fragment
  | .empty => Assembler.nothing
  | .literal bytes =>
      Assembler.chain (bytes.map fun byte => Assembler.oneByte ⟨byte, byte⟩)
  | .set members _ => Assembler.character direction members
  | .place assertion => Assembler.single (.test assertion 0)
  | .repetition inner least most _ =>
      let part := inner.assemble direction
      match most with
      | none =>
          Assembler.atLeast part (inner.minLength?.any fun length => 0 < length) least
      | some most =>
          if least = 0 && most = 1 then Assembler.optional part
          else if least = most then Assembler.copies part least
          else Assembler.between part least most
  | .capture _ inner =>
      match direction with
      | .forward => do
          let opening ← Assembler.add (.pass 0)
          let part ← inner.assemble direction
          let closing ← Assembler.add (.pass 0)
          Assembler.connect opening part.entry
          Assembler.connect part.exit closing
          return ⟨opening, closing⟩
      | .backward => inner.assemble direction
  | .sequence parts => Assembler.chain (assembleAll direction parts)
  | .choice branches =>
      match branches.mapM literal? with
      | some words =>
          if words.length ≤ 1 then Assembler.choose (assembleAll direction branches)
          else Assembler.words words
      | none => Assembler.choose (assembleAll direction branches)

def assembleAll (direction : Direction) : List Regex → List (Assembler Fragment)
  | [] => []
  | head :: tail => head.assemble direction :: assembleAll direction tail

end

/-- Adds what skips bytes before a match. -/
def assembleSkipping (isAnchored : Bool) : Assembler Nat :=
  if isAnchored then Assembler.add (.pass 0)
  else do
    let branch ← Assembler.add (.branch [])
    let target ← Assembler.add (.pass 0)
    let entry ← Assembler.add (.steps #[⟨⟨0, 255⟩, target⟩])
    Assembler.connect branch entry
    Assembler.connect target branch
    return branch

/-- The automaton that reads in the given direction. It begins with the state
after the skipped bytes. -/
def automaton? (direction : Direction) (regex : Regex) : Option Automaton := do
  let build : Assembler Nat := do
    let (isAnchored, whole) : Bool × Regex :=
      match direction with
      | .forward => (regex.beginsWith .textStart, .capture 0 regex)
      | .backward => (regex.reversed.beginsWith .textEnd, regex.reversed)
    let skipping ← assembleSkipping isAnchored
    let part ← whole.assemble direction
    let accepting ← Assembler.add .accept
    Assembler.connect part.exit accepting
    Assembler.connect skipping part.entry
    return part.entry
  let (start, assembly) ← build Assembly.empty
  return ⟨assembly.states, start⟩

end Regex

end Traceability.Pattern
